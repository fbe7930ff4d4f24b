import MyAccountController.Foundation.Interleaving
import MyAccountController.Mail.MailRequests
import MyAccountController.Mail.ScanTurns

/-! # Decisions that take turns

Approvals, exclusions and scans of several tabs are tasks that take turns at
their queries and at the call of the provider. Neither decision reads the
status of the candidate, so two of them may both be carried out. The history
records which call was made for which candidate; no task reads it.
-/

namespace MyAccountController

open Foundation MailServer CandidatesService

inductive Decision where
  | approve
  | exclude
  deriving DecidableEq, Repr

/-- The status that the decision writes. -/
def Decision.status : Decision → CandidateStatus
  | approve => .APPROVED
  | exclude => .EXCLUDED

/-- What a decision does in its next turn. -/
inductive DecisionPhase where
  | findOwned
  | acting (owned : CandidateWithRelations)
  | writing

/-- One turn of `approve` or `exclude`. -/
def DecisionPhase.turn (decision : Decision) (now : Int) (providers : MailProviderRegistry)
    (userId id : String) : DecisionPhase → Handler Exception MailServer (Option DecisionPhase)
  | findOwned => do
      let owned ← query (CandidatesService.findOwned userId id)
      match decision with
      | .approve => pure (some (.acting owned))
      | .exclude => pure (some .writing)
  | acting owned => do
      applyMailAction providers owned
      pure (some .writing)
  | writing => do
      let _ ← query (updateStatus id decision.status now)
      pure none

theorem query_bind {α β : Type} (x : Query α) (f : α → Query β) :
    query (x >>= f) = query x >>= fun a => query (f a) := by
  funext server
  rcases hrun : x server.db with ⟨e | a, db⟩
  · rw [Handler.bind_of_error (query_of_run hrun)]
    exact query_of_run (Handler.bind_of_error hrun)
  · rw [Handler.bind_of_ok (query_of_run hrun)]
    unfold query
    rw [Handler.zoom_run, Handler.bind_of_ok hrun]
    rfl

/-- The turns of an approval in a row are the service method. -/
theorem approve_inRow (now : Int) (providers : MailProviderRegistry) (userId id : String) :
    inRow (DecisionPhase.turn .approve now providers userId id) 3 .findOwned =
      (do let _ ← approve providers now userId id; pure ()) := by
  have := @Handler.lawfulMonad Exception MailServer
  simp only [inRow, DecisionPhase.turn, approve, bind_assoc, pure_bind]
  rfl

/-- The turns of an exclusion in a row are the service method. -/
theorem exclude_inRow (now : Int) (providers : MailProviderRegistry) (userId id : String) :
    inRow (DecisionPhase.turn .exclude now providers userId id) 2 .findOwned =
      (do let _ ← query (exclude now userId id); pure ()) := by
  have := @Handler.lawfulMonad Exception MailServer
  simp only [inRow, DecisionPhase.turn, exclude, query_bind, bind_assoc, pure_bind]
  rfl

/-! ## The system -/

/-- The server, and the calls made so far, each with its candidate. -/
structure MailboxState where
  server : MailServer
  made : List (String × ActionCall)

inductive MailTask where
  | scanning (rest : Program Exception MailServer PUnit)
  | deciding (decision : Decision) (userId id : String) (phase : DecisionPhase)
  | ended

/-- What starts. -/
inductive MailStart where
  | scan (userId : String) (providers : LawfulRegistry) (faults : ScanFaults)
      (freshId : Nat → Nat → Nat → String)
  | scanAll (providers : LawfulRegistry) (faults : ScanFaults)
      (freshId : Nat → Nat → Nat → String)
  | decide (decision : Decision) (userId id : String)

/-- The time of a turn, what the providers answer in it, and the exception by
which the database may fail it. -/
structure MailTurn where
  now : Int
  providers : LawfulRegistry
  fault : Option Exception

def MailStart.task (unicode : UnicodeData) : MailStart → MailTask
  | scan userId providers faults freshId =>
      .scanning (scanTurns unicode providers.val faults freshId userId)
  | scanAll providers faults freshId =>
      .scanning (scanAllTurns unicode providers.val faults freshId)
  | decide decision userId id => .deciding decision userId id .findOwned

namespace MailTask

/-- One turn of a task. -/
def turn (input : MailTurn) (state : MailboxState) : MailTask → MailboxState × MailTask
  | scanning (.done _) => (state, ended)
  | scanning (.await effect rest) =>
      ({ state with server := effect state.server }, scanning (rest state.server))
  | deciding decision userId id phase =>
      match input.fault with
      | some _ => (state, ended)
      | none =>
          let (result, server) := phase.turn decision input.now input.providers.val userId id
            state.server
          let calls := server.calls.drop state.server.calls.length
          ({ server, made := state.made ++ calls.map fun call => (id, call) },
            match result with
            | .ok (some next) => deciding decision userId id next
            | .ok none => ended
            | .error _ => ended)
  | ended => (state, ended)

end MailTask

namespace MailboxState

/-- One move of the system. -/
def step (unicode : UnicodeData) :
    Pool MailboxState MailTask → Move MailStart MailTurn → Pool MailboxState MailTask :=
  Pool.step (fun what state => (state, some (what.task unicode))) MailTask.turn

end MailboxState

end MyAccountController
