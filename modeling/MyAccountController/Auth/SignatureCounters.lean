import MyAccountController.Auth.WebAuthnService
import MyAccountController.Foundation.Interleaving

/-! # Signature counters

An authentication reads the device, verifies the assertion against the counter it
read, and writes the new counter. Other authentications of the device may take
their turns in between. The counters grow when no assertion is read for a device
while another one that will be accepted is on its way, and the accepted counters
fit their column: the write of a larger one is refused.
-/

namespace MyAccountController

open Foundation WebAuthnService

/-- The library accepts a counter only above the one it is given, or both are 0. -/
def AuthenticationResponse.Lawful (response : AuthenticationResponse) : Prop :=
  ∀ challenge device counter, response.verify challenge device = .ok (some counter) →
    device.counter < counter ∨ device.counter = 0 ∧ counter = 0

/-- Where an authentication is. -/
inductive AuthenticationPhase where
  | finding
  | verifying (device : TrustedDevice)
  | writing (device : TrustedDevice) (counter : Int)

/-- One turn of `verifyAuthentication`. -/
def AuthenticationPhase.turn (now : Int) (expectedChallenge : String)
    (response : AuthenticationResponse) : AuthenticationPhase → Query (Option AuthenticationPhase)
  | finding => do
      let found ← Prisma.trustedDevice.findFirst (·.webauthnCredentialId = response.id)
      let device ← Handler.expect found (.unauthorized "등록되지 않은 기기입니다.")
      pure (some (.verifying device))
  | verifying device => do
      let newCounter ← verification (response.verify expectedChallenge device)
        (fun message => "생체인증 검증 실패: " ++ message) "생체인증을 검증할 수 없습니다."
      pure (some (.writing device newCounter))
  | writing device counter => do
      let _ ← countUse device.id counter now
      pure none

/-- The turns in a row are the service method. -/
theorem verifyAuthentication_inRow (now : Int) (expectedChallenge : String)
    (response : AuthenticationResponse) :
    inRow (AuthenticationPhase.turn now expectedChallenge response) 3 .finding =
      (do let _ ← verifyAuthentication now expectedChallenge response; pure ()) := by
  have := @Handler.lawfulMonad Exception Database
  simp only [inRow, AuthenticationPhase.turn, verifyAuthentication, bind_assoc, pure_bind]

/-! ## The system -/

inductive AuthenticationTask where
  | authenticating (expectedChallenge : String) (response : {r : AuthenticationResponse // r.Lawful})
      (phase : AuthenticationPhase)
  | ended

/-- The database, and the counters accepted so far, each with its device. -/
structure CounterState where
  db : Database
  accepted : List (String × Int)

/-- An authentication that begins. -/
structure AuthenticationStart where
  expectedChallenge : String
  response : {r : AuthenticationResponse // r.Lawful}

namespace AuthenticationTask

/-- The counter that an accepted assertion is about to write. -/
def writes : AuthenticationTask → Option (String × Int)
  | authenticating _ _ (.writing device counter) => some (device.id, counter)
  | _ => none

/-- One turn, at the given time. -/
def turn (now : Int) (state : CounterState) : AuthenticationTask → CounterState × AuthenticationTask
  | authenticating expectedChallenge response phase =>
      let (result, db) := phase.turn now expectedChallenge response.val state.db
      let task := match result with
        | .ok (some next) => authenticating expectedChallenge response next
        | .ok none => ended
        | .error _ => ended
      ({ db, accepted := state.accepted ++ task.writes.toList }, task)
  | ended => (state, ended)

end AuthenticationTask

namespace CounterState

/-- One move of the system. -/
def step : Pool CounterState AuthenticationTask → Move AuthenticationStart Int →
    Pool CounterState AuthenticationTask :=
  Pool.step
    (fun what state =>
      (state, some (.authenticating what.expectedChallenge what.response .finding)))
    AuthenticationTask.turn

end CounterState

/-! ## The law and its condition -/

def Database.counterOf (db : Database) (id : String) : Option Int :=
  (db.trustedDevices.find? id).map TrustedDevice.counter

/-- The later counter is above the earlier one, or both are 0. -/
def Above (earlier later : Int) : Prop := earlier < later ∨ earlier = 0 ∧ later = 0

instance (earlier later : Int) : Decidable (Above earlier later) :=
  inferInstanceAs (Decidable (_ ∨ _))

/-- The stored counters grow to the largest one accepted, and a counter that is not above an
accepted one of the device is rejected. -/
structure CountersGrow (before later : Pool CounterState AuthenticationTask) : Prop where
  never_decreases : ∀ id counter, before.shared.db.counterOf id = some counter →
    ∃ counter', later.shared.db.counterOf id = some counter' ∧ counter ≤ counter'
  largest : (∀ task ∈ later.tasks, task = .ended) → ∀ id counter,
    (id, counter) ∈ later.shared.accepted → ∃ stored, later.shared.db.counterOf id = some stored ∧
      (id, stored) ∈ later.shared.accepted ∧ counter ≤ stored
  rejected : later.shared.accepted.Pairwise fun earlier entry =>
    earlier.1 = entry.1 → Above earlier.2 entry.2

/-- The counter of an accepted answer. -/
def acceptedCounter : Except String (Option Int) → Option Int
  | .ok counter => counter
  | .error _ => none

namespace AuthenticationTask

/-- The counter that the assertion will write, once the device is read. -/
def pending : AuthenticationTask → Option (String × Int)
  | authenticating expectedChallenge response (.verifying device) =>
      (acceptedCounter (response.val.verify expectedChallenge device)).map (device.id, ·)
  | authenticating _ _ (.writing device counter) => some (device.id, counter)
  | authenticating _ _ .finding | ended => none

/-- The counter that the assertion would write if it read the device now. -/
def wouldWrite (db : Database) : AuthenticationTask → Option (String × Int)
  | authenticating expectedChallenge response .finding => do
      let device ← db.trustedDevices.rows.find? (·.webauthnCredentialId = response.val.id)
      let counter ← acceptedCounter (response.val.verify expectedChallenge device)
      pure (device.id, counter)
  | _ => none

end AuthenticationTask

/-- No two pending counters of one device, unless both are 0. -/
def CountersApart (a b : Option (String × Int)) : Prop :=
  ∀ first ∈ a, ∀ second ∈ b, first.1 = second.1 → first.2 = 0 ∧ second.2 = 0

instance (a b : Option (String × Int)) : Decidable (CountersApart a b) :=
  inferInstanceAs (Decidable (∀ first ∈ a, ∀ second ∈ b, _))

namespace CounterState

/-- A device is read for an assertion only when no other one is about to be accepted, and with a
counter that its column takes. -/
def MayMove (pool : Pool CounterState AuthenticationTask) : Move AuthenticationStart Int → Prop
  | .start _ => True
  | .turn index _ => ∀ task ∈ pool.tasks[index]?,
      (∀ entry ∈ task.wouldWrite pool.shared.db, Prisma.Int4 entry.2) ∧
        ∀ other ∈ pool.tasks, CountersApart (task.wouldWrite pool.shared.db) other.pending

instance (pool : Pool CounterState AuthenticationTask) : ∀ move, Decidable (MayMove pool move)
  | .start _ => isTrue trivial
  | .turn index _ => inferInstanceAs (Decidable (∀ task ∈ pool.tasks[index]?, _))

end CounterState

/-! ## What a turn may do -/

/-- The database after the counter of a device was written. -/
def withCounter (id : String) (counter now : Int) (db : Database) : Database :=
  Prisma.trustedDevice.withTable db
    (db.trustedDevices.modify id (setCounter counter now) (setCounter_unindexed counter now))

section Turns

variable {state : CounterState} {challenge : String}
  {response : {r : AuthenticationResponse // r.Lawful}}

/-- The outcomes of a turn. -/
inductive AuthenticationTurn (state : CounterState) (challenge : String)
    (response : {r : AuthenticationResponse // r.Lawful}) :
    AuthenticationPhase → CounterState → AuthenticationTask → Prop where
  | stopped (phase : AuthenticationPhase)
      (hphase : ∀ device counter, phase = .writing device counter → Prisma.Int4 counter →
        state.db.trustedDevices.find? device.id = none) :
      AuthenticationTurn state challenge response phase state .ended
  | read (device : TrustedDevice) (hfind : state.db.trustedDevices.rows.find?
        (·.webauthnCredentialId = response.val.id) = some device) :
      AuthenticationTurn state challenge response .finding state
        (.authenticating challenge response (.verifying device))
  | verified (device : TrustedDevice) (counter : Int)
      (hverify : response.val.verify challenge device = .ok (some counter)) :
      AuthenticationTurn state challenge response (.verifying device)
        { state with accepted := state.accepted ++ [(device.id, counter)] }
        (.authenticating challenge response (.writing device counter))
  | written (device row : TrustedDevice) (counter now : Int)
      (hfind : state.db.trustedDevices.find? device.id = some row) :
      AuthenticationTurn state challenge response (.writing device counter)
        { state with db := withCounter device.id counter now state.db } .ended

theorem verification_run {α : Type} (answer : Except String (Option α))
    (failed : String → String) (unverified : String) (db : Database) :
    (∃ info, answer = .ok (some info) ∧
      verification answer failed unverified db = (.ok info, db)) ∨
      ∃ e, verification answer failed unverified db = (.error e, db) := by
  unfold verification
  split
  · exact .inr ⟨_, rfl⟩
  · exact .inr ⟨_, rfl⟩
  next info => exact .inl ⟨info, rfl, rfl⟩

theorem authentication_turn (now : Int) (phase : AuthenticationPhase) :
    AuthenticationTurn state challenge response phase
      (AuthenticationTask.turn now state (.authenticating challenge response phase)).1
      (AuthenticationTask.turn now state (.authenticating challenge response phase)).2 := by
  have hsame : ∀ task : AuthenticationTask, task.writes = none →
      ({ db := state.db, accepted := state.accepted ++ task.writes.toList } : CounterState) =
        state := by
    intro task htask
    rw [htask, Option.toList_none, List.append_nil]
  unfold AuthenticationTask.turn
  cases phase with
  | finding =>
      unfold AuthenticationPhase.turn
      dsimp only
      rw [Model.findFirst_bind]
      cases hfind : (Prisma.trustedDevice.table state.db).rows.find?
          (·.webauthnCredentialId = response.val.id) with
      | none =>
          rw [Handler.expect_none_bind]
          dsimp only
          rw [hsame _ rfl]
          exact .stopped _ nofun
      | some device =>
          rw [Handler.expect_some_bind]
          dsimp only [Handler.pure_run]
          rw [hsame _ rfl]
          exact .read device hfind
  | verifying device =>
      unfold AuthenticationPhase.turn
      dsimp only
      rcases verification_run (response.val.verify challenge device)
        (fun message => "생체인증 검증 실패: " ++ message) "생체인증을 검증할 수 없습니다."
        state.db with ⟨counter, hverify, hrun⟩ | ⟨e, hrun⟩
      · rw [Handler.bind_of_ok hrun]
        exact .verified device counter hverify
      · rw [Handler.bind_of_error hrun]
        dsimp only
        rw [hsame _ rfl]
        exact .stopped _ nofun
  | writing device counter =>
      unfold AuthenticationPhase.turn
      dsimp only
      by_cases hcounter : Prisma.Int4 counter
      case neg =>
        rw [Handler.bind_of_error (countUse_of_not_int4 hcounter now state.db)]
        dsimp only
        rw [hsame _ rfl]
        refine .stopped _ fun other counter' hphase hfits => ?_
        obtain ⟨-, rfl⟩ := AuthenticationPhase.writing.inj hphase
        exact absurd hfits hcounter
      cases hfind : state.db.trustedDevices.find? device.id with
      | none =>
          -- The device was removed after its assertion was verified.
          have hmissing : countUse device.id counter now state.db = (.error .p2025, state.db) :=
            (countUse_of_int4 hcounter now state.db).trans
              ((Model.update_error_iff _).mpr ⟨hfind, rfl, rfl⟩)
          rw [Handler.bind_of_error hmissing]
          dsimp only
          rw [hsame _ rfl]
          refine .stopped _ fun other counter' hphase _ => ?_
          obtain ⟨rfl, -⟩ := AuthenticationPhase.writing.inj hphase
          exact hfind
      | some row =>
          have hwritten : countUse device.id counter now state.db =
              (.ok (setCounter counter now row), withCounter device.id counter now state.db) :=
            (countUse_of_int4 hcounter now state.db).trans
              ((Model.update_ok_iff _).mpr ⟨⟨row, hfind, rfl⟩, rfl⟩)
          rw [Handler.bind_of_ok hwritten]
          dsimp only [Handler.pure_run]
          rw [show AuthenticationTask.ended.writes.toList = [] from rfl, List.append_nil]
          exact .written device row counter now hfind

end Turns

/-! ## The invariant -/

/-- A pending counter is above the stored one and fits its column, and one about to be written was
accepted. -/
structure AuthenticationTask.Allowed (state : CounterState) (task : AuthenticationTask) : Prop where
  pending : ∀ entry ∈ task.pending,
    ∃ stored, state.db.counterOf entry.1 = some stored ∧ Above stored entry.2
  fits : ∀ entry ∈ task.pending, Prisma.Int4 entry.2
  writes : ∀ entry ∈ task.writes, entry ∈ state.accepted

namespace CounterState

/-- Every accepted counter is about to be written, or at most the stored one. -/
structure InOrder (pool : Pool CounterState AuthenticationTask) : Prop where
  allowed : ∀ task ∈ pool.tasks, task.Allowed pool.shared
  apart : pool.tasks.Pairwise fun a b => CountersApart a.pending b.pending
  logged : ∀ entry ∈ pool.shared.accepted, (∃ task ∈ pool.tasks, task.writes = some entry) ∨
    ∃ stored, pool.shared.db.counterOf entry.1 = some stored ∧
      (entry.1, stored) ∈ pool.shared.accepted ∧ entry.2 ≤ stored
  rejected : pool.shared.accepted.Pairwise fun earlier entry =>
    earlier.1 = entry.1 → Above earlier.2 entry.2

/-- No stored counter decreases. -/
def Grows (db db' : Database) : Prop :=
  ∀ id counter, db.counterOf id = some counter →
    ∃ counter', db'.counterOf id = some counter' ∧ counter ≤ counter'

end CounterState

theorem CountersApart.symm {a b : Option (String × Int)} (hapart : CountersApart a b) :
    CountersApart b a := by
  intro first hfirst second hsecond hid
  exact (hapart second hsecond first hfirst hid.symm).symm

theorem Above.of_le {earlier stored later : Int} (hle : earlier ≤ stored)
    (habove : Above stored later) : Above earlier later := by
  unfold Above at *
  omega

section Turns

open CounterState

variable {pool : Pool CounterState AuthenticationTask} {index : Nat} {challenge : String}
  {response : {r : AuthenticationResponse // r.Lawful}}

theorem counterOf_withCounter {id : String} {counter now : Int} {db : Database}
    {row : TrustedDevice} (hfind : db.trustedDevices.find? id = some row) (other : String) :
    (withCounter id counter now db).counterOf other =
      if other = id then some counter else db.counterOf other := by
  unfold Database.counterOf withCounter
  show ((db.trustedDevices.modify id (setCounter counter now)
    (setCounter_unindexed counter now)).find? other).map TrustedDevice.counter = _
  split
  next hid =>
    subst hid
    rw [Table.find?_modify (setCounter_unindexed counter now) hfind]
    rfl
  next hid => rw [Table.find?_modify_of_ne (setCounter_unindexed counter now) hid]

/-- A task that writes nothing may become another task. -/
theorem logged_set {entry : String × Int} {task task' : AuthenticationTask}
    (htask : pool.tasks[index]? = some task) (hwrites : task.writes = none)
    (hlogged : ∃ other ∈ pool.tasks, other.writes = some entry) :
    ∃ other ∈ pool.tasks.set index task', other.writes = some entry := by
  obtain ⟨other, hother, hentry⟩ := hlogged
  refine ⟨other, mem_set_of_ne htask hother ?_, hentry⟩
  rintro rfl
  rw [hwrites] at hentry
  contradiction

theorem CounterState.InOrder.set {task task' : AuthenticationTask} {state' : CounterState}
    (hinOrder : InOrder pool) (htask : pool.tasks[index]? = some task)
    (hown : task'.Allowed state')
    (hothers : ∀ other ∈ pool.tasks, CountersApart task.pending other.pending →
      other.Allowed pool.shared → other.Allowed state')
    (hapart : ∀ other ∈ pool.tasks, CountersApart task.pending other.pending →
      CountersApart task'.pending other.pending)
    (hlogged : ∀ entry ∈ state'.accepted,
      (∃ other ∈ pool.tasks.set index task', other.writes = some entry) ∨
        ∃ stored, state'.db.counterOf entry.1 = some stored ∧
          (entry.1, stored) ∈ state'.accepted ∧ entry.2 ≤ stored)
    (hrejected : state'.accepted.Pairwise fun earlier entry =>
      earlier.1 = entry.1 → Above earlier.2 entry.2) :
    InOrder ⟨state', pool.tasks.set index task'⟩ := by
  have hsymm : ∀ a b : AuthenticationTask, CountersApart a.pending b.pending →
      CountersApart b.pending a.pending := fun _ _ hapart => hapart.symm
  refine ⟨fun other hother => ?_, pairwise_set hsymm hapart hinOrder.apart htask, hlogged,
    hrejected⟩
  rcases apart_of_mem_set hsymm hinOrder.apart htask hother with rfl | ⟨hmem, hotherApart⟩
  · exact hown
  · exact hothers other hmem hotherApart (hinOrder.allowed other hmem)

/-- A turn that changes neither the database nor the log. -/
theorem inOrder_same {task task' : AuthenticationTask} (hinOrder : InOrder pool)
    (htask : pool.tasks[index]? = some task) (hwrites : task.writes = none)
    (hown : task'.Allowed pool.shared)
    (hapart : ∀ other ∈ pool.tasks, CountersApart task.pending other.pending →
      CountersApart task'.pending other.pending) :
    InOrder ⟨pool.shared, pool.tasks.set index task'⟩ := by
  apply hinOrder.set htask hown (fun _ _ _ hallowed => hallowed) hapart ?_ hinOrder.rejected
  intro entry hentry
  rcases hinOrder.logged entry hentry with hwriting | hstored
  · exact .inl (logged_set htask hwrites hwriting)
  · exact .inr hstored

theorem allowed_ended (state : CounterState) : AuthenticationTask.ended.Allowed state :=
  ⟨nofun, nofun, nofun⟩

theorem apart_ended (other : AuthenticationTask) :
    CountersApart AuthenticationTask.ended.pending other.pending :=
  nofun

/-- The pending counter of a device that was just read. -/
theorem pending_of_read {device : TrustedDevice}
    (hfind : pool.shared.db.trustedDevices.rows.find?
      (·.webauthnCredentialId = response.val.id) = some device) :
    (AuthenticationTask.authenticating challenge response (.verifying device)).pending =
      (AuthenticationTask.authenticating challenge response .finding).wouldWrite
        pool.shared.db := by
  unfold AuthenticationTask.pending AuthenticationTask.wouldWrite
  dsimp only
  rw [hfind]
  show (acceptedCounter (response.val.verify challenge device)).map _ =
    (acceptedCounter (response.val.verify challenge device)).bind _
  cases acceptedCounter (response.val.verify challenge device) <;> rfl

theorem pending_of_writes {task : AuthenticationTask} {entry : String × Int}
    (hwrites : task.writes = some entry) : task.pending = some entry := by
  cases task with
  | ended => contradiction
  | authenticating challenge response phase =>
      cases phase with
      | writing device counter => exact hwrites
      | finding => contradiction
      | verifying device => contradiction

theorem acceptedCounter_eq_some {answer : Except String (Option Int)} {counter : Int}
    (haccepted : acceptedCounter answer = some counter) : answer = .ok (some counter) := by
  cases answer with
  | error e => contradiction
  | ok found => exact congrArg Except.ok haccepted

theorem inOrder_read {device : TrustedDevice} (hinOrder : InOrder pool)
    (htask : pool.tasks[index]? = some (.authenticating challenge response .finding))
    (hfind : pool.shared.db.trustedDevices.rows.find?
      (·.webauthnCredentialId = response.val.id) = some device)
    (hfits : ∀ entry ∈ (AuthenticationTask.authenticating challenge response .finding).wouldWrite
      pool.shared.db, Prisma.Int4 entry.2)
    (hmay : ∀ other ∈ pool.tasks, CountersApart
      ((AuthenticationTask.authenticating challenge response .finding).wouldWrite pool.shared.db)
        other.pending) :
    InOrder ⟨pool.shared, pool.tasks.set index
      (.authenticating challenge response (.verifying device))⟩ := by
  apply inOrder_same hinOrder htask rfl
  · refine ⟨fun entry hentry => ?_, by rwa [pending_of_read hfind], nofun⟩
    obtain ⟨counter, haccepted, rfl⟩ := Option.map_eq_some_iff.mp hentry
    have hstored : pool.shared.db.trustedDevices.find? device.id = some device :=
      Table.find?_eq_some_iff.mpr ⟨List.mem_of_find?_eq_some hfind, rfl⟩
    refine ⟨device.counter, ?_, response.property _ _ _ (acceptedCounter_eq_some haccepted)⟩
    unfold Database.counterOf
    rw [hstored]
    rfl
  · intro other hother _
    rw [pending_of_read hfind]
    exact hmay other hother

theorem inOrder_verified {device : TrustedDevice} {counter : Int} (hinOrder : InOrder pool)
    (htask : pool.tasks[index]? = some (.authenticating challenge response (.verifying device)))
    (hverify : response.val.verify challenge device = .ok (some counter)) :
    InOrder ⟨{ pool.shared with accepted := pool.shared.accepted ++ [(device.id, counter)] },
      pool.tasks.set index (.authenticating challenge response (.writing device counter))⟩ := by
  have hmem := List.mem_of_getElem? htask
  have hpending : (AuthenticationTask.authenticating challenge response
      (.verifying device)).pending = some (device.id, counter) := by
    unfold AuthenticationTask.pending
    dsimp only
    rw [hverify]
    rfl
  obtain ⟨stored, hstored, habove⟩ := (hinOrder.allowed _ hmem).pending _ hpending
  apply hinOrder.set htask
  · refine ⟨fun entry hentry => ?_, fun entry hentry => ?_, fun entry hentry => ?_⟩
    · obtain rfl := Option.some.inj hentry
      exact ⟨stored, hstored, habove⟩
    · exact (hinOrder.allowed _ hmem).fits entry (hpending.trans hentry)
    · obtain rfl := Option.some.inj hentry
      exact List.mem_append_right _ (List.mem_singleton_self _)
  · intro other _ _ hallowed
    exact ⟨hallowed.pending, hallowed.fits, fun entry hentry =>
      List.mem_append_left _ (hallowed.writes entry hentry)⟩
  · intro other _ hapart
    rw [hpending] at hapart
    exact hapart
  · intro entry hentry
    rcases List.mem_append.mp hentry with hold | hnew
    · rcases hinOrder.logged entry hold with hwriting | ⟨c, hc, hlogged, hle⟩
      · exact .inl (logged_set htask rfl hwriting)
      · exact .inr ⟨c, hc, List.mem_append_left _ hlogged, hle⟩
    · rw [List.mem_singleton.mp hnew]
      exact .inl ⟨_, mem_set_self htask, rfl⟩
  · refine List.pairwise_append.mpr ⟨hinOrder.rejected, List.pairwise_singleton _ _, ?_⟩
    intro earlier hearlier entry hentry hid
    rw [List.mem_singleton.mp hentry] at hid ⊢
    -- An earlier counter was written, and is at most the stored one, or is still to be written.
    rcases hinOrder.logged earlier hearlier with ⟨other, hother, hwrites⟩ | ⟨c, hc, -, hle⟩
    · -- The earlier one is about to be written, so both are 0.
      have hne : other ≠ .authenticating challenge response (.verifying device) := by
        rintro rfl
        contradiction
      have : Std.Symm fun a b : AuthenticationTask => CountersApart a.pending b.pending :=
        ⟨fun _ _ hapart => hapart.symm⟩
      have hapart := hinOrder.apart.forall hother hmem hne
      rw [pending_of_writes hwrites, hpending] at hapart
      exact .inr (hapart _ rfl _ rfl hid)
    · rw [hid, hstored] at hc
      exact Above.of_le hle (Option.some.inj hc ▸ habove)

theorem inOrder_written {device row : TrustedDevice} {counter now : Int} (hinOrder : InOrder pool)
    (htask : pool.tasks[index]? = some
      (.authenticating challenge response (.writing device counter)))
    (hfind : pool.shared.db.trustedDevices.find? device.id = some row) :
    InOrder ⟨{ pool.shared with db := withCounter device.id counter now pool.shared.db },
      pool.tasks.set index .ended⟩ ∧
        Grows pool.shared.db (withCounter device.id counter now pool.shared.db) := by
  have hmem := List.mem_of_getElem? htask
  obtain ⟨stored, hstored, habove⟩ := (hinOrder.allowed _ hmem).pending _ rfl
  have haccepted := (hinOrder.allowed _ hmem).writes _ rfl
  have hcounter := @counterOf_withCounter device.id counter now pool.shared.db row hfind
  have hle : stored ≤ counter := by
    unfold Above at habove
    dsimp only at habove
    omega
  constructor
  · apply @CounterState.InOrder.set pool index _ _
      ⟨withCounter device.id counter now pool.shared.db, pool.shared.accepted⟩ hinOrder htask
      (allowed_ended _) ?_ (fun other _ _ => apart_ended other) ?_ hinOrder.rejected
    · intro other _ hapart hallowed
      refine ⟨fun entry hentry => ?_, hallowed.fits, hallowed.writes⟩
      show ∃ c, (withCounter device.id counter now pool.shared.db).counterOf entry.1 = some c ∧ _
      rw [hcounter]
      split
      next hid =>
        -- Another assertion of the device may be pending only while both counters are 0.
        obtain ⟨hzero, hzero'⟩ := hapart _ rfl entry hentry hid.symm
        exact ⟨counter, rfl, .inr ⟨hzero, hzero'⟩⟩
      next => exact hallowed.pending entry hentry
    · intro entry hentry
      show _ ∨ ∃ c, (withCounter device.id counter now pool.shared.db).counterOf entry.1 =
        some c ∧ _
      rw [hcounter]
      rcases hinOrder.logged entry hentry with ⟨other, hother, hwrites⟩ | ⟨c, hc, hlogged, hlec⟩
      · by_cases hsame : other = .authenticating challenge response (.writing device counter)
        · subst hsame
          obtain rfl := Option.some.inj hwrites
          rw [if_pos rfl]
          exact .inr ⟨counter, rfl, haccepted, Int.le_refl _⟩
        · exact .inl ⟨other, mem_set_of_ne htask hother hsame, hwrites⟩
      · split
        next hid =>
          rw [hid, hstored] at hc
          obtain rfl := Option.some.inj hc
          refine .inr ⟨counter, rfl, ?_, Int.le_trans hlec hle⟩
          rw [hid]
          exact haccepted
        next => exact .inr ⟨c, hc, hlogged, hlec⟩
  · intro id before hbefore
    rw [hcounter]
    split
    next hid =>
      rw [hid, hstored] at hbefore
      obtain rfl := Option.some.inj hbefore
      exact ⟨counter, rfl, hle⟩
    next => exact ⟨before, hbefore, Int.le_refl _⟩

theorem CounterState.Grows.refl (db : Database) : Grows db db :=
  fun _ counter hcounter => ⟨counter, hcounter, Int.le_refl counter⟩

theorem CounterState.Grows.trans {a b c : Database} (hab : Grows a b) (hbc : Grows b c) :
    Grows a c := by
  intro id counter hcounter
  obtain ⟨middle, hmiddle, hle⟩ := hab id counter hcounter
  obtain ⟨last, hlast, hle'⟩ := hbc id middle hmiddle
  exact ⟨last, hlast, Int.le_trans hle hle'⟩

/-- A turn keeps the order, and no counter decreases. -/
theorem inOrder_turn (now : Int) {task : AuthenticationTask} (hinOrder : InOrder pool)
    (htask : pool.tasks[index]? = some task)
    (hfits : ∀ entry ∈ task.wouldWrite pool.shared.db, Prisma.Int4 entry.2)
    (hmay : ∀ other ∈ pool.tasks, CountersApart (task.wouldWrite pool.shared.db) other.pending) :
    InOrder ⟨(task.turn now pool.shared).1, pool.tasks.set index (task.turn now pool.shared).2⟩ ∧
      Grows pool.shared.db (task.turn now pool.shared).1.db := by
  cases task with
  | ended =>
      refine ⟨inOrder_same hinOrder htask rfl (allowed_ended _) fun other _ _ => apart_ended other, ?_⟩
      exact Grows.refl _
  | authenticating challenge response phase =>
      have hturn := @authentication_turn pool.shared challenge response now phase
      generalize (AuthenticationTask.turn now pool.shared
        (.authenticating challenge response phase)).1 = state' at hturn ⊢
      generalize (AuthenticationTask.turn now pool.shared
        (.authenticating challenge response phase)).2 = task' at hturn ⊢
      cases hturn with
      | stopped _ hphase =>
          refine ⟨inOrder_same hinOrder htask ?_ (allowed_ended _) fun other _ _ =>
            apart_ended other, Grows.refl _⟩
          cases phase with
          | finding => rfl
          | verifying device => rfl
          | writing device counter =>
              -- The counter is about to be written, so the device is there.
              have hallowed := hinOrder.allowed _ (List.mem_of_getElem? htask)
              obtain ⟨stored, hstored, -⟩ := hallowed.pending _ rfl
              unfold Database.counterOf at hstored
              rw [hphase device counter rfl (hallowed.fits _ rfl)] at hstored
              contradiction
      | read device hfind => exact ⟨inOrder_read hinOrder htask hfind hfits hmay, Grows.refl _⟩
      | verified device counter hverify =>
          exact ⟨inOrder_verified hinOrder htask hverify, Grows.refl _⟩
      | written device row counter _ hfind => exact inOrder_written hinOrder htask hfind

end Turns

/-! ## Runs -/

section Runs

open CounterState

variable {pool : Pool CounterState AuthenticationTask}
  {first second : List (Move AuthenticationStart Int)}

theorem inOrder_start (hinOrder : InOrder pool) (what : AuthenticationStart) :
    InOrder (CounterState.step pool (.start what)) := by
  unfold CounterState.step
  rw [Pool.step_start]
  dsimp only [Option.toList_some]
  refine ⟨fun task htask => ?_, ?_, fun entry hentry => ?_, hinOrder.rejected⟩
  · rcases List.mem_append.mp htask with hold | hnew
    · exact hinOrder.allowed task hold
    · rw [List.mem_singleton.mp hnew]
      exact ⟨nofun, nofun, nofun⟩
  · refine List.pairwise_append.mpr ⟨hinOrder.apart, List.pairwise_singleton _ _, ?_⟩
    intro other _ task htask
    rw [List.mem_singleton.mp htask]
    exact fun _ _ => nofun
  · rcases hinOrder.logged entry hentry with ⟨other, hother, hwrites⟩ | hstored
    · exact .inl ⟨other, List.mem_append_left _ hother, hwrites⟩
    · exact .inr hstored

theorem inOrder_step (move : Move AuthenticationStart Int) (hinOrder : InOrder pool)
    (hmay : MayMove pool move) :
    InOrder (CounterState.step pool move) ∧
      Grows pool.shared.db (CounterState.step pool move).shared.db := by
  cases move with
  | start what => exact ⟨inOrder_start hinOrder what, Grows.refl _⟩
  | turn index now =>
      cases htask : pool.tasks[index]? with
      | none =>
          unfold CounterState.step
          rw [Pool.step_turn_of_none _ _ htask]
          exact ⟨hinOrder, Grows.refl _⟩
      | some task =>
          unfold CounterState.step
          rw [Pool.step_turn _ _ htask]
          obtain ⟨hfits, hapart⟩ := hmay task htask
          exact inOrder_turn now hinOrder htask hfits hapart

theorem inOrder_run {moves : List (Move AuthenticationStart Int)} (hinOrder : InOrder pool)
    (halong : Along CounterState.step MayMove pool moves) :
    InOrder (run CounterState.step pool moves) ∧
      Grows pool.shared.db (run CounterState.step pool moves).shared.db := by
  refine @run_invariant _ _ CounterState.step MayMove
    (fun later => InOrder later ∧ Grows pool.shared.db later.shared.db) ?_ pool moves
    ⟨hinOrder, Grows.refl _⟩ halong
  intro later move ⟨hlater, hgrown⟩ hmay
  obtain ⟨hnext, hstep⟩ := inOrder_step move hlater hmay
  exact ⟨hnext, hgrown.trans hstep⟩

/-- When a device is read only while no other assertion of it is about to be accepted, for counters
that their column takes, its counter grows, whatever turns the authentications take. -/
theorem countersGrow (htasks : pool.tasks = []) (haccepted : pool.shared.accepted = [])
    (halong : Along CounterState.step MayMove pool (first ++ second)) :
    CountersGrow (run CounterState.step pool first)
      (run CounterState.step pool (first ++ second)) := by
  obtain ⟨hfirst, hsecond⟩ := along_append.mp halong
  have hinOrder : InOrder pool := by
    refine ⟨?_, ?_, ?_, ?_⟩
    · rw [htasks]
      exact fun task htask => absurd htask List.not_mem_nil
    · rw [htasks]
      exact List.Pairwise.nil
    · rw [haccepted]
      exact fun entry hentry => absurd hentry List.not_mem_nil
    · rw [haccepted]
      exact List.Pairwise.nil
  obtain ⟨hbefore, -⟩ := inOrder_run hinOrder hfirst
  obtain ⟨hlater, hgrows⟩ := inOrder_run hbefore hsecond
  rw [run_append]
  refine
    { never_decreases := hgrows
      largest := fun hended id counter hentry => ?_
      rejected := hlater.rejected }
  rcases hlater.logged (id, counter) hentry with ⟨task, htask, hwrites⟩ | hstored
  · rw [hended task htask] at hwrites
    contradiction
  · exact hstored

end Runs

/-! ## A counter that decreases -/

namespace CounterState.TwoAssertions

def device : TrustedDevice :=
  { id := "d", userId := "u", deviceLabel := "phone", webauthnCredentialId := "c",
    webauthnPublicKey := "k", counter := 5, createdAt := 0, lastUsedAt := none }

def registered : Pool CounterState AuthenticationTask :=
  ⟨⟨{ Database.empty with trustedDevices := ⟨[device], by decide⟩ }, []⟩, []⟩

/-- An assertion of the device with the given counter. -/
def assertion (counter : Int) : {r : AuthenticationResponse // r.Lawful} where
  val :=
    { id := "c"
      verify := fun _ device =>
        if device.counter < counter then .ok (some counter) else .error "counter" }
  property := by
    intro _ device accepted haccepted
    dsimp only at haccepted
    split at haccepted
    next hlt =>
      obtain rfl := Option.some.inj (Except.ok.inj haccepted)
      exact .inl hlt
    next => contradiction

/-- Both assertions are verified against the counter 5, and the larger one is written. -/
def verifyBoth : List (Move AuthenticationStart Int) :=
  [.start ⟨"x", assertion 10⟩, .start ⟨"y", assertion 7⟩, .turn 0 1, .turn 1 1, .turn 0 2,
    .turn 1 2, .turn 0 3]

/-- One assertion after the other. -/
def oneByOne : List (Move AuthenticationStart Int) :=
  [.start ⟨"x", assertion 7⟩, .turn 0 1, .turn 0 1, .turn 0 1, .start ⟨"y", assertion 10⟩,
    .turn 1 2, .turn 1 2, .turn 1 2]

end CounterState.TwoAssertions

open CounterState.TwoAssertions in
/-- The counter 10 is stored, and the second request writes 7 over it. -/
theorem not_countersGrow : ¬ CountersGrow (run CounterState.step registered verifyBoth)
    (run CounterState.step registered (verifyBoth ++ [.turn 1 3])) := by
  intro hgrow
  obtain ⟨counter, hcounter, hle⟩ := hgrow.never_decreases "d" 10 (by decide)
  have hstored : (run CounterState.step registered
      (verifyBoth ++ [.turn 1 3])).shared.db.counterOf "d" = some 7 := by decide
  obtain rfl := Option.some.inj (hstored.symm.trans hcounter)
  exact absurd hle (by decide)

open CounterState.TwoAssertions in
theorem countersGrow_example : CountersGrow (run CounterState.step registered oneByOne)
    (run CounterState.step registered (oneByOne ++ [.start ⟨"z", assertion 9⟩, .turn 2 3])) :=
  countersGrow rfl rfl (by decide)

end MyAccountController
