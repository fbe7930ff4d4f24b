import MyAccountController.Mail.Decisions
import MyAccountController.Mail.MailboxCalls

/-! # One decision for each candidate

A candidate should leave the pending status once, and its mail should be acted
on once. The services do not check this. It holds when no decision is begun
that the status, the calls made or a running decision speak against.
-/

namespace MyAccountController

open Foundation MailServer CandidatesService

namespace Database

def statusOf (db : Database) (id : String) : Option CandidateStatus :=
  (db.emailCandidates.find? id).map EmailCandidate.status

/-- The candidate is in a mailbox of the user, or not stored yet. -/
def mayFind (db : Database) (userId id : String) : Bool :=
  (db.emailCandidates.find? id).all fun row => db.ownsEmailAccount userId row.emailAccountId

/-- The rule of the candidate deletes or marks spam, or is not known yet. -/
def mayAct (db : Database) (id : String) : Bool :=
  (db.emailCandidates.find? id).all fun row =>
    (db.emailRules.find? row.ruleId).any fun rule => (mailActionOf rule.actionType).isSome

end Database

namespace MailboxState

/-- The calls made for a candidate. -/
def callsFor (state : MailboxState) (id : String) : List ActionCall :=
  (state.made.filter fun entry => entry.1 = id).map Prod.snd

def successes (state : MailboxState) (id : String) : List ActionCall :=
  (state.callsFor id).filter ActionCall.succeeded

/-- What is decided in one state stays so in a later one. -/
structure DecidedOnce (before later : MailboxState) : Prop where
  final : ∀ id status, before.server.db.statusOf id = some status →
    later.server.db.statusOf id = some status ∨ status = .PENDING ∧
      (later.server.db.statusOf id = some .APPROVED ∨
        later.server.db.statusOf id = some .EXCLUDED)
  excluded : ∀ id, before.server.db.statusOf id = some .EXCLUDED →
    later.callsFor id = before.callsFor id
  spared : ∀ id, before.successes id ≠ [] → later.server.db.statusOf id ≠ some .EXCLUDED
  once : ∀ id, (later.successes id).length ≤ 1

end MailboxState

/-! ## The condition -/

/-- The decision that the task is carrying out about the candidate. -/
def MailTask.decision (db : Database) (id : String) : MailTask → Option Decision
  | deciding decision userId candidate _ =>
      if candidate = id ∧ db.mayFind userId id then some decision else none
  | scanning _ | ended => none

/-- The two decisions may run at the same time: both exclude, or both approve
and leave the mailbox alone. -/
def Decision.Compatible (db : Database) (id : String) (a b : Decision) : Prop :=
  a = b ∧ (a = .approve → db.mayAct id = false)

instance (db : Database) (id : String) (a b : Decision) : Decidable (a.Compatible db id b) :=
  inferInstanceAs (Decidable (_ ∧ _))

namespace MailboxState

/-- Nothing speaks against the decision when it is begun. -/
def MayDecide (pool : Pool MailboxState MailTask) (decision : Decision) (userId id : String) :
    Prop :=
  let db := pool.shared.server.db
  db.mayFind userId id = true →
    (∀ status ∈ db.statusOf id, status = .PENDING ∨ status = decision.status) ∧
    (∀ other ∈ pool.tasks.filterMap (MailTask.decision db id), decision.Compatible db id other) ∧
    pool.shared.successes id = []

instance (pool : Pool MailboxState MailTask) (decision : Decision) (userId id : String) :
    Decidable (MayDecide pool decision userId id) :=
  inferInstanceAs (Decidable (_ → _ ∧ _ ∧ _))

/-- The condition on moves: it is about decisions only, when they are begun. -/
def MayMove (pool : Pool MailboxState MailTask) : Move MailStart MailTurn → Prop
  | .start (.decide decision userId id) => MayDecide pool decision userId id
  | .start (.scan ..) | .start (.scanAll ..) | .turn .. => True

instance (pool : Pool MailboxState MailTask) : ∀ move, Decidable (MayMove pool move)
  | .start (.decide decision userId id) =>
      inferInstanceAs (Decidable (MayDecide pool decision userId id))
  | .start (.scan ..) => isTrue trivial
  | .start (.scanAll ..) => isTrue trivial
  | .turn .. => isTrue trivial

end MailboxState

/-! ## What a turn of a decision may do -/

section Turns

variable {state : MailboxState} {decision : Decision} {userId id : String}

/-- The outcomes of a turn of a decision. -/
inductive DecisionTurn (state : MailboxState) (decision : Decision) (userId id : String) :
    DecisionPhase → MailboxState → MailTask → Prop where
  | stopped (phase : DecisionPhase) : DecisionTurn state decision userId id phase state .ended
  | toAct (owned : CandidateWithRelations) (howned : Owned userId id state.server.db owned)
      (hdecision : decision = .approve) :
      DecisionTurn state decision userId id .findOwned state
        (.deciding decision userId id (.acting owned))
  | toWrite (owned : CandidateWithRelations) (howned : Owned userId id state.server.db owned)
      (hdecision : decision = .exclude) :
      DecisionTurn state decision userId id .findOwned state
        (.deciding decision userId id .writing)
  | acted (owned : CandidateWithRelations) (server : MailServer) (calls : List ActionCall)
      (next : MailTask)
      (hrefreshes : RefreshesToken owned.candidate.emailAccountId state.server.db server.db)
      (hlength : calls.length ≤ 1)
      (hcalls : calls.filter ActionCall.succeeded ≠ [] →
        (mailActionOf owned.rule.actionType).isSome = true)
      (hnext : next = .ended ∨ next = .deciding decision userId id .writing) :
      DecisionTurn state decision userId id (.acting owned)
        { server, made := state.made ++ calls.map fun call => (id, call) } next
  | written (now : Int) (row : EmailCandidate)
      (hfind : state.server.db.emailCandidates.find? id = some row) (server : MailServer)
      (hdb : server.db = withStatus id decision.status now state.server.db) :
      DecisionTurn state decision userId id .writing { server, made := state.made } .ended

/-- The task after a turn with the result. -/
def nextTask (decision : Decision) (userId id : String) :
    Except Exception (Option DecisionPhase) → MailTask
  | .ok (some next) => .deciding decision userId id next
  | .ok none => .ended
  | .error _ => .ended

theorem turn_of_run {input : MailTurn} {phase : DecisionPhase}
    {result : Except Exception (Option DecisionPhase)} {server : MailServer}
    (calls : List ActionCall) (hfault : input.fault = none)
    (hrun : phase.turn decision input.now input.providers.val userId id state.server =
      (result, server)) (hcalls : server.calls = state.server.calls ++ calls) :
    MailTask.turn input state (.deciding decision userId id phase) =
      ({ server, made := state.made ++ calls.map fun call => (id, call) },
        nextTask decision userId id result) := by
  unfold MailTask.turn
  simp only [hfault, hrun, hcalls, List.drop_left]
  cases result with
  | error e => rfl
  | ok next => cases next <;> rfl

/-- A turn that leaves the server as it is. -/
theorem turn_of_same {input : MailTurn} {phase : DecisionPhase}
    {result : Except Exception (Option DecisionPhase)} (hfault : input.fault = none)
    (hrun : phase.turn decision input.now input.providers.val userId id state.server =
      (result, state.server)) :
    MailTask.turn input state (.deciding decision userId id phase) =
      (state, nextTask decision userId id result) := by
  rw [turn_of_run [] hfault hrun (List.append_nil _).symm, List.map_nil, List.append_nil]

theorem decision_turn (input : MailTurn) (phase : DecisionPhase) :
    DecisionTurn state decision userId id phase
      (MailTask.turn input state (.deciding decision userId id phase)).1
      (MailTask.turn input state (.deciding decision userId id phase)).2 := by
  cases hfault : input.fault with
  | some e =>
      unfold MailTask.turn
      rw [hfault]
      exact .stopped phase
  | none =>
      cases phase with
      | findOwned =>
          rcases hfound : CandidatesService.findOwned userId id state.server.db with ⟨e | owned, db⟩
          · obtain rfl := findOwned_error hfound
            rw [turn_of_same hfault (Handler.bind_of_error (query_of_run hfound))]
            exact .stopped _
          · obtain ⟨howned, hdb⟩ := findOwned_ok_iff.mp hfound
            subst db
            cases decision with
            | approve =>
                rw [turn_of_same hfault (Handler.bind_of_ok (query_of_run hfound))]
                exact .toAct owned howned rfl
            | exclude =>
                rw [turn_of_same hfault (Handler.bind_of_ok (query_of_run hfound))]
                exact .toWrite owned howned rfl
      | acting owned =>
          -- The status is not read again: the call is made whatever others have decided since.
          have happlied := applyMailAction_run input.providers.property owned state.server
          rcases hrun : applyMailAction input.providers.val owned state.server with ⟨result, server⟩
          rw [hrun] at happlied
          cases happlied with
          | unsupported e action haction =>
              rw [turn_of_same hfault (Handler.bind_of_error hrun)]
              exact .stopped _
          | failed e action db haction hrefreshes =>
              rw [turn_of_run _ hfault (Handler.bind_of_error hrun) rfl]
              exact .acted owned _ _ _ hrefreshes (Nat.le_refl 1) (by simp [callOf]) (.inl rfl)
          | done db hrefreshes =>
              rw [turn_of_run _ hfault (Handler.bind_of_ok hrun) rfl]
              refine .acted owned _ _ _ hrefreshes ?_ ?_ (.inr rfl)
              · cases mailActionOf owned.rule.actionType <;> simp
              · cases mailActionOf owned.rule.actionType <;> simp
      | writing =>
          cases hfind : state.server.db.emailCandidates.find? id with
          | none =>
              -- The candidate was removed after it was found: the update fails with P2025.
              have hmissing : updateStatus id decision.status input.now state.server.db =
                  (.error .p2025, state.server.db) :=
                (Model.update_error_iff _).mpr ⟨hfind, rfl, rfl⟩
              rw [turn_of_same hfault (Handler.bind_of_error (query_of_run hmissing))]
              exact .stopped _
          | some row =>
              have hwritten := @updateStatus_of_find id input.now _ row decision.status hfind
              rw [@turn_of_run state decision userId id input .writing _
                { state.server with db := withStatus id decision.status input.now state.server.db }
                [] hfault (Handler.bind_of_ok (query_of_run hwritten)) (List.append_nil _).symm,
                List.map_nil, List.append_nil]
              exact .written input.now row hfind _ rfl

end Turns

/-! ## What the moves keep -/

/-- No candidate is removed or moved to another rule or mailbox. -/
structure KeepsRows (db db' : Database) : Prop where
  rules : db'.emailRules = db.emailRules
  owners : ∀ userId emailAccountId,
    db'.ownsEmailAccount userId emailAccountId = db.ownsEmailAccount userId emailAccountId
  kept : ∀ id row, db.emailCandidates.find? id = some row →
    ∃ row', db'.emailCandidates.find? id = some row' ∧ row'.ruleId = row.ruleId ∧
      row'.emailAccountId = row.emailAccountId

section KeepsRows

variable {db db' : Database} {userId id : String}

theorem keepsRows_of_adds (hadds : AddsPending db db') : KeepsRows db db' where
  rules := hadds.rules
  owners userId emailAccountId := by
    have hsame := find?_of_withoutToken hadds.accounts emailAccountId
    unfold Database.ownsEmailAccount
    cases hfind : db.emailAccounts.find? emailAccountId with
    | none =>
        rw [hfind, Option.map_none, Option.map_eq_none_iff] at hsame
        rw [hsame]
    | some row =>
        rw [hfind] at hsame
        obtain ⟨row', hfind', heq⟩ := Option.map_eq_some_iff.mp hsame
        have huser : row'.withoutToken.userId = row.withoutToken.userId :=
          congrArg EmailAccount.userId heq
        replace huser : row'.userId = row.userId := huser
        rw [hfind', Option.any_some, Option.any_some, huser]
  kept id row hfind := ⟨row, hadds.kept id row hfind, rfl, rfl⟩

theorem keepsRows_withStatus (id : String) (status : CandidateStatus) (now : Int)
    (db : Database) : KeepsRows db (withStatus id status now db) where
  rules := rfl
  owners _ _ := rfl
  kept other row hfind := by
    by_cases hid : other = id
    · subst hid
      exact ⟨_, Table.find?_modify (setStatus_unindexed status now) hfind, rfl, rfl⟩
    · exact ⟨row, (Table.find?_modify_of_ne (setStatus_unindexed status now) hid).trans hfind,
        rfl, rfl⟩

theorem statusOf_isSome : (db.statusOf id).isSome = true ↔
    ∃ row, db.emailCandidates.find? id = some row := by
  unfold Database.statusOf
  cases db.emailCandidates.find? id <;> simp

namespace KeepsRows

theorem statusOf (hkeeps : KeepsRows db db') (hfound : (db.statusOf id).isSome = true) :
    (db'.statusOf id).isSome = true := by
  obtain ⟨row, hfind⟩ := statusOf_isSome.mp hfound
  obtain ⟨row', hfind', -⟩ := hkeeps.kept id row hfind
  exact statusOf_isSome.mpr ⟨row', hfind'⟩

/-- Of a stored candidate nothing changes but the status. -/
theorem of_found (hkeeps : KeepsRows db db') (hfound : (db.statusOf id).isSome = true) :
    db'.mayFind userId id = db.mayFind userId id ∧ db'.mayAct id = db.mayAct id := by
  obtain ⟨row, hfind⟩ := statusOf_isSome.mp hfound
  obtain ⟨row', hfind', hrule, haccount⟩ := hkeeps.kept id row hfind
  unfold Database.mayFind Database.mayAct
  rw [hfind, hfind', Option.all_some, Option.all_some, Option.all_some, Option.all_some, hrule,
    haccount, hkeeps.rules, hkeeps.owners]
  exact ⟨rfl, rfl⟩

theorem mayFind (hkeeps : KeepsRows db db') (hmay : db'.mayFind userId id = true) :
    db.mayFind userId id = true := by
  cases hfind : db.emailCandidates.find? id with
  | none =>
      unfold Database.mayFind
      rw [hfind]
      rfl
  | some row =>
      rw [← (hkeeps.of_found (statusOf_isSome.mpr ⟨row, hfind⟩)).1]
      exact hmay

theorem mayAct (hkeeps : KeepsRows db db') (hmay : db.mayAct id = false) :
    db'.mayAct id = false := by
  cases hfind : db.emailCandidates.find? id with
  | none =>
      unfold Database.mayAct at hmay
      rw [hfind] at hmay
      contradiction
  | some row =>
      rw [(@of_found db db' "" id hkeeps (statusOf_isSome.mpr ⟨row, hfind⟩)).2]
      exact hmay

theorem decision (hkeeps : KeepsRows db db') {task : MailTask} {decision : Decision}
    (htask : task.decision db' id = some decision) : task.decision db id = some decision := by
  unfold MailTask.decision at htask ⊢
  cases task with
  | deciding taken userId candidate phase =>
      dsimp only at htask ⊢
      split at htask
      next hrunning =>
        rw [if_pos ⟨hrunning.1, hkeeps.mayFind hrunning.2⟩]
        exact htask
      next => contradiction
  | scanning rest => contradiction
  | ended => contradiction

end KeepsRows

theorem statusOf_of_adds (hadds : AddsPending db db') (id : String) :
    db'.statusOf id = db.statusOf id ∨
      db.statusOf id = none ∧ db'.statusOf id = some .PENDING := by
  unfold Database.statusOf
  cases hfind : db'.emailCandidates.find? id with
  | none =>
      cases hbefore : db.emailCandidates.find? id with
      | none => exact .inl rfl
      | some row =>
          rw [hadds.kept id row hbefore] at hfind
          contradiction
  | some row =>
      rcases hadds.added id row hfind with hold | ⟨hnone, hstatus⟩
      · exact .inl (by rw [hold])
      · exact .inr ⟨by rw [hnone]; rfl, congrArg some hstatus⟩

theorem statusOf_withStatus {status : CandidateStatus} {now : Int} {row : EmailCandidate}
    (hfind : db.emailCandidates.find? id = some row) (other : String) :
    (withStatus id status now db).statusOf other =
      if other = id then some status else db.statusOf other := by
  unfold Database.statusOf withStatus
  split
  next hid =>
    subst hid
    rw [Table.find?_modify (setStatus_unindexed status now) hfind]
    rfl
  next hid => rw [Table.find?_modify_of_ne (setStatus_unindexed status now) hid]

end KeepsRows

/-! ## The invariant -/

/-- What a running decision may rely on. -/
structure Deciding (state : MailboxState) (decision : Decision) (userId id : String)
    (phase : DecisionPhase) : Prop where
  status : state.server.db.mayFind userId id = true →
    ∀ status ∈ state.server.db.statusOf id, status = .PENDING ∨ status = decision.status
  fresh : state.server.db.mayFind userId id = true →
    state.successes id = [] ∨ decision = .approve ∧ phase = .writing
  found : phase ≠ .findOwned →
    (state.server.db.statusOf id).isSome = true ∧ state.server.db.mayFind userId id = true
  acting : ∀ owned, phase = .acting owned → decision = .approve ∧
    state.server.db.mayAct id = (mailActionOf owned.rule.actionType).isSome

namespace MailTask

/-- A scan adds pending candidates only, and a decision has what it relies on. -/
def Allowed (state : MailboxState) : MailTask → Prop
  | scanning rest => Program.Always ScanStep rest
  | deciding decision userId id phase => Deciding state decision userId id phase
  | ended => True

/-- The decisions of two tasks about one candidate are compatible. -/
def Apart (db : Database) (a b : MailTask) : Prop :=
  ∀ id first second, a.decision db id = some first → b.decision db id = some second →
    first.Compatible db id second

end MailTask

theorem Decision.Compatible.symm {db : Database} {id : String} {a b : Decision}
    (hcompatible : a.Compatible db id b) : b.Compatible db id a := by
  obtain ⟨rfl, hacts⟩ := hcompatible
  exact ⟨rfl, hacts⟩

theorem MailTask.Apart.symm {db : Database} (a b : MailTask) (hapart : a.Apart db b) :
    b.Apart db a :=
  fun id first second hfirst hsecond => (hapart id second first hsecond hfirst).symm

theorem MailTask.Apart.keep {db db' : Database} (hkeeps : KeepsRows db db') {a b : MailTask}
    (hapart : a.Apart db b) : a.Apart db' b := by
  intro id first second hfirst hsecond
  obtain ⟨heq, hacts⟩ := hapart id first second (hkeeps.decision hfirst) (hkeeps.decision hsecond)
  exact ⟨heq, fun happrove => hkeeps.mayAct (hacts happrove)⟩

/-- The running decisions speak for themselves and not against each other, and
what was done in a mailbox agrees with the status. -/
structure Orderly (pool : Pool MailboxState MailTask) : Prop where
  allowed : ∀ task ∈ pool.tasks, task.Allowed pool.shared
  apart : pool.tasks.Pairwise (MailTask.Apart pool.shared.server.db)
  once : ∀ id, (pool.shared.successes id).length ≤ 1
  spared : ∀ id, pool.shared.successes id ≠ [] →
    pool.shared.server.db.statusOf id ≠ some .EXCLUDED

/-- Decisions stay, excluded candidates are left alone and calls are not forgotten. -/
structure Proceeds (state state' : MailboxState) : Prop where
  final : ∀ id status, state.server.db.statusOf id = some status →
    state'.server.db.statusOf id = some status ∨ status = .PENDING ∧
      (state'.server.db.statusOf id = some .APPROVED ∨
        state'.server.db.statusOf id = some .EXCLUDED)
  excluded : ∀ id, state.server.db.statusOf id = some .EXCLUDED →
    state'.callsFor id = state.callsFor id
  kept : ∀ id, state.successes id ⊆ state'.successes id

theorem Proceeds.refl (state : MailboxState) : Proceeds state state :=
  ⟨fun _ _ hstatus => .inl hstatus, fun _ _ => rfl, fun _ => List.Subset.refl _⟩

theorem Proceeds.trans {a b c : MailboxState} (hab : Proceeds a b) (hbc : Proceeds b c) :
    Proceeds a c where
  final id status hstatus := by
    rcases hab.final id status hstatus with hsame | ⟨rfl, hdecided⟩
    · exact hbc.final id status hsame
    · refine .inr ⟨rfl, ?_⟩
      rcases hdecided with happroved | hexcluded
      · rcases hbc.final id _ happroved with hsame | ⟨hpending, -⟩
        · exact .inl hsame
        · contradiction
      · rcases hbc.final id _ hexcluded with hsame | ⟨hpending, -⟩
        · exact .inr hsame
        · contradiction
  excluded id hexcluded := by
    rcases hab.final id _ hexcluded with hsame | ⟨hpending, -⟩
    · exact (hbc.excluded id hsame).trans (hab.excluded id hexcluded)
    · contradiction
  kept id := List.Subset.trans (hab.kept id) (hbc.kept id)

/-- A decision keeps what it relies on while others take their turns. -/
theorem Deciding.transfer {state state' : MailboxState} {decision : Decision}
    {userId id : String} {phase : DecisionPhase}
    (hdeciding : Deciding state decision userId id phase)
    (hkeeps : KeepsRows state.server.db state'.server.db)
    (hstatus : state'.server.db.mayFind userId id = true →
      ∀ status ∈ state'.server.db.statusOf id,
        status ∈ state.server.db.statusOf id ∨ status = .PENDING ∨ status = decision.status)
    (hfresh : state'.server.db.mayFind userId id = true →
      state'.successes id = state.successes id) :
    Deciding state' decision userId id phase where
  status hmay status hmem := by
    rcases hstatus hmay status hmem with hold | hallowed
    · exact hdeciding.status (hkeeps.mayFind hmay) status hold
    · exact hallowed
  fresh hmay := by
    rw [hfresh hmay]
    exact hdeciding.fresh (hkeeps.mayFind hmay)
  found hphase := by
    obtain ⟨hfound, hmay⟩ := hdeciding.found hphase
    rw [(hkeeps.of_found hfound).1]
    exact ⟨hkeeps.statusOf hfound, hmay⟩
  acting owned hphase := by
    obtain ⟨hdecision, hacts⟩ := hdeciding.acting owned hphase
    have hfound : (state.server.db.statusOf id).isSome = true :=
      (hdeciding.found (by rw [hphase]; simp)).1
    rw [(@KeepsRows.of_found _ _ userId id hkeeps hfound).2]
    exact ⟨hdecision, hacts⟩

/-- A turn keeps the order when its task may go on and the others are not disturbed. -/
structure TurnKeeps (state state' : MailboxState) (task task' : MailTask) : Prop where
  keeps : KeepsRows state.server.db state'.server.db
  own : task'.Allowed state'
  stays : ∀ db id decision, task'.decision db id = some decision →
    task.decision db id = some decision
  others : ∀ other : MailTask, other.Allowed state → task.Apart state.server.db other →
    other.Allowed state'
  once : ∀ id, (state'.successes id).length ≤ 1
  spared : ∀ id, state'.successes id ≠ [] → state'.server.db.statusOf id ≠ some .EXCLUDED
  proceeds : Proceeds state state'

/-- A task that has ended carries out no decision. -/
theorem stays_ended (task : MailTask) (db : Database) (id : String) (decision : Decision)
    (hended : MailTask.ended.decision db id = some decision) :
    task.decision db id = some decision := by
  rw [MailTask.decision] at hended
  contradiction

theorem Orderly.turn {pool : Pool MailboxState MailTask} {index : Nat} {task task' : MailTask}
    {state' : MailboxState} (horderly : Orderly pool) (htask : pool.tasks[index]? = some task)
    (hturn : TurnKeeps pool.shared state' task task') :
    Orderly ⟨state', pool.tasks.set index task'⟩ where
  allowed other hother := by
    rcases apart_of_mem_set MailTask.Apart.symm horderly.apart htask hother with
      rfl | ⟨hmem, hapart⟩
    · exact hturn.own
    · exact hturn.others other (horderly.allowed other hmem) hapart
  apart := by
    apply pairwise_set MailTask.Apart.symm ?_ (horderly.apart.imp fun hapart =>
      MailTask.Apart.keep hturn.keeps hapart) htask
    intro other _ hapart id first second hfirst hsecond
    exact hapart id first second (hturn.stays _ id first hfirst) hsecond
  once := hturn.once
  spared := hturn.spared

/-! ## One move -/

section Moves

variable {pool : Pool MailboxState MailTask} {decision : Decision} {userId id : String}

/-- The calls for a candidate after calls were recorded. -/
theorem callsFor_record (state : MailboxState) (server : MailServer) (recorded : String)
    (calls : List ActionCall) (id : String) :
    (⟨server, state.made ++ calls.map fun call => (recorded, call)⟩ : MailboxState).callsFor id =
      state.callsFor id ++ if recorded = id then calls else [] := by
  unfold MailboxState.callsFor
  rw [List.filter_append, List.map_append]
  congr 1
  split
  next hid => simp [List.filter_map, Function.comp_def, hid]
  next hid => simp [List.filter_map, Function.comp_def, hid]

theorem turnKeeps_same {task task' : MailTask} (horderly : Orderly pool)
    (hown : task'.Allowed pool.shared)
    (hstays : ∀ db id decision, task'.decision db id = some decision →
      task.decision db id = some decision) : TurnKeeps pool.shared pool.shared task task' where
  keeps := keepsRows_of_adds (AddsPending.refl _)
  own := hown
  stays := hstays
  others _ hallowed _ := hallowed
  once := horderly.once
  spared := horderly.spared
  proceeds := Proceeds.refl _

theorem turnKeeps_scan {task task' : Program Exception MailServer PUnit} {server : MailServer}
    (horderly : Orderly pool) (hstep : ScanStep pool.shared.server server)
    (hrest : Program.Always ScanStep task') :
    TurnKeeps pool.shared { pool.shared with server } (.scanning task) (.scanning task') where
  keeps := keepsRows_of_adds hstep
  own := hrest
  stays _ _ _ hdecision := hdecision
  others other hallowed _ := by
    cases other with
    | scanning rest => exact hallowed
    | ended => trivial
    | deciding decision userId id phase =>
        refine Deciding.transfer hallowed (keepsRows_of_adds hstep) (fun _ status hmem => ?_)
          fun _ => rfl
        rcases statusOf_of_adds hstep id with hsame | ⟨-, hpending⟩
        · exact .inl (hsame ▸ hmem)
        · replace hmem : status ∈ server.db.statusOf id := hmem
          rw [hpending] at hmem
          exact .inr (.inl (Option.mem_some_iff.mp hmem).symm)
  once := horderly.once
  spared id hacted := by
    show server.db.statusOf id ≠ _
    rcases statusOf_of_adds hstep id with hsame | ⟨-, hpending⟩
    · rw [hsame]
      exact horderly.spared id hacted
    · rw [hpending]
      decide
  proceeds :=
    { final := fun id status hstatus => by
        rcases statusOf_of_adds hstep id with hsame | ⟨hnone, -⟩
        · exact .inl (hsame.trans hstatus)
        · rw [hnone] at hstatus
          contradiction
      excluded := fun _ _ => rfl
      kept := fun _ => List.Subset.refl _ }

theorem statusOf_refresh {emailAccountId : String} {db db' : Database}
    (hrefreshes : RefreshesToken emailAccountId db db') (id : String) :
    db'.statusOf id = db.statusOf id := by
  unfold Database.statusOf
  rw [hrefreshes.emailCandidates]

/-- The task that carries out the decision and may find its candidate. -/
theorem decision_of_mayFind {db : Database} {phase : DecisionPhase}
    (hmay : db.mayFind userId id = true) :
    (MailTask.deciding decision userId id phase).decision db id = some decision :=
  if_pos ⟨rfl, hmay⟩

theorem turnKeeps_acted {owned : CandidateWithRelations} {server : MailServer}
    {calls : List ActionCall} {next : MailTask} (horderly : Orderly pool)
    (hallowed : Deciding pool.shared decision userId id (.acting owned))
    (hrefreshes : RefreshesToken owned.candidate.emailAccountId pool.shared.server.db server.db)
    (hlength : calls.length ≤ 1)
    (hcalls : calls.filter ActionCall.succeeded ≠ [] →
      (mailActionOf owned.rule.actionType).isSome = true)
    (hnext : next = .ended ∨ next = .deciding decision userId id .writing) :
    TurnKeeps pool.shared
      ⟨server, pool.shared.made ++ calls.map fun call => (id, call)⟩
      (.deciding decision userId id (.acting owned)) next := by
  obtain ⟨hfound, hmay⟩ := hallowed.found (by simp)
  obtain ⟨happrove, hacts⟩ := hallowed.acting owned rfl
  have hkeeps := keepsRows_of_adds (addsPending_refresh hrefreshes)
  have hstatus := statusOf_refresh hrefreshes
  have hfresh : pool.shared.successes id = [] := by
    rcases hallowed.fresh hmay with hfresh | ⟨-, hphase⟩
    · exact hfresh
    · contradiction
  have hnotExcluded : pool.shared.server.db.statusOf id ≠ some .EXCLUDED := by
    intro hexcluded
    rcases hallowed.status hmay _ hexcluded with hpending | happroved
    · contradiction
    · rw [happrove] at happroved
      contradiction
  have hsuccesses : ∀ other, MailboxState.successes
      ⟨server, pool.shared.made ++ calls.map fun call => (id, call)⟩ other =
        pool.shared.successes other ++
          if id = other then calls.filter ActionCall.succeeded else [] := by
    intro other
    unfold MailboxState.successes
    rw [callsFor_record, List.filter_append]
    split <;> rfl
  -- The mail of another candidate, or of none, was acted on, unless no one else decides on this one.
  have hothers : ∀ other : MailTask, other.Allowed pool.shared →
      (MailTask.deciding decision userId id (.acting owned)).Apart pool.shared.server.db other →
        other.Allowed ⟨server, pool.shared.made ++ calls.map fun call => (id, call)⟩ := by
    intro other hother hapart
    cases other with
    | scanning rest => exact hother
    | ended => trivial
    | deciding second userId' id' phase =>
        refine Deciding.transfer hother hkeeps (fun _ status hmem => .inl ?_) fun hmay' => ?_
        · rw [← hstatus]
          exact hmem
        · rw [hsuccesses]
          split
          next hid =>
            subst hid
            by_cases hnone : calls.filter ActionCall.succeeded = []
            · rw [hnone, List.append_nil]
            · obtain ⟨-, hleaves⟩ := hapart id decision second (decision_of_mayFind hmay)
                (decision_of_mayFind (hkeeps.mayFind hmay'))
              rw [hacts, hcalls hnone] at hleaves
              exact absurd (hleaves happrove) (by simp)
          next => exact List.append_nil _
  refine ⟨hkeeps, ?_, ?_, hothers, ?_, ?_, ?_⟩
  · rcases hnext with rfl | rfl
    · trivial
    · refine ⟨fun hmay' status hmem => ?_, fun _ => .inr ⟨happrove, rfl⟩, fun _ => ?_,
        fun _ hphase => nomatch hphase⟩
      · replace hmem : status ∈ server.db.statusOf id := hmem
        rw [hstatus] at hmem
        exact hallowed.status hmay status hmem
      · exact ⟨hkeeps.statusOf hfound, (hkeeps.of_found hfound).1.trans hmay⟩
  · rcases hnext with rfl | rfl
    · exact stays_ended _
    · exact fun _ _ _ hdecision => hdecision
  · intro other
    rw [hsuccesses]
    split
    next hid =>
      rw [← hid, hfresh, List.nil_append]
      exact Nat.le_trans (List.length_filter_le _ calls) hlength
    next =>
      rw [List.append_nil]
      exact horderly.once other
  · intro other hacted
    show server.db.statusOf other ≠ _
    rw [hstatus]
    rw [hsuccesses] at hacted
    by_cases hid : id = other
    · rw [← hid]
      exact hnotExcluded
    · rw [if_neg hid, List.append_nil] at hacted
      exact horderly.spared other hacted
  · refine ⟨fun other status hbefore => .inl ((hstatus other).trans hbefore), ?_, fun other => ?_⟩
    · intro other hexcluded
      rw [callsFor_record, if_neg, List.append_nil]
      rintro rfl
      exact hnotExcluded hexcluded
    · rw [hsuccesses]
      exact List.subset_append_left _ _

theorem turnKeeps_written {now : Int} {row : EmailCandidate} {server : MailServer}
    (horderly : Orderly pool) (hallowed : Deciding pool.shared decision userId id .writing)
    (hfind : pool.shared.server.db.emailCandidates.find? id = some row)
    (hdb : server.db = withStatus id decision.status now pool.shared.server.db) :
    TurnKeeps pool.shared ⟨server, pool.shared.made⟩ (.deciding decision userId id .writing)
      .ended := by
  obtain ⟨hfound, hmay⟩ := hallowed.found (by simp)
  have hkeeps : KeepsRows pool.shared.server.db server.db :=
    hdb ▸ keepsRows_withStatus id decision.status now pool.shared.server.db
  have hstatus : ∀ other, server.db.statusOf other =
      if other = id then some decision.status else pool.shared.server.db.statusOf other := by
    intro other
    rw [hdb, statusOf_withStatus hfind]
  refine ⟨hkeeps, trivial, stays_ended _, fun other hother hapart => ?_, horderly.once, ?_, ?_⟩
  · cases other with
    | scanning rest => exact hother
    | ended => trivial
    | deciding second userId' id' phase =>
        refine Deciding.transfer hother hkeeps (fun hmay' status hmem => ?_) fun _ => rfl
        replace hmem : status ∈ server.db.statusOf id' := hmem
        rw [hstatus] at hmem
        split at hmem
        next hid =>
          subst hid
          -- Both tasks decide on this candidate, and so in the same way.
          obtain ⟨rfl, -⟩ := hapart id' decision second (decision_of_mayFind hmay)
            (decision_of_mayFind (hkeeps.mayFind hmay'))
          exact .inr (.inr (Option.mem_some_iff.mp hmem).symm)
        next => exact .inl hmem
  · intro other hacted
    show server.db.statusOf other ≠ _
    rw [hstatus]
    split
    next hid =>
      subst hid
      rcases hallowed.fresh hmay with hfresh | ⟨rfl, -⟩
      · exact absurd hfresh hacted
      · decide
    next => exact horderly.spared other hacted
  · refine ⟨fun other status hbefore => ?_, fun _ _ => rfl, fun _ => List.Subset.refl _⟩
    show server.db.statusOf other = _ ∨ _ ∧ (server.db.statusOf other = _ ∨
      server.db.statusOf other = _)
    rw [hstatus]
    split
    next hid =>
      subst hid
      rcases hallowed.status hmay status hbefore with rfl | rfl
      · cases decision
        · exact .inr ⟨rfl, .inl rfl⟩
        · exact .inr ⟨rfl, .inr rfl⟩
      · exact .inl rfl
    next => exact .inl hbefore

/-- The candidate was found, in a mailbox of the user. -/
theorem Deciding.found_next {state : MailboxState} {owned : CandidateWithRelations}
    {phase : DecisionPhase} (hdeciding : Deciding state decision userId id .findOwned)
    (howned : Owned userId id state.server.db owned)
    (hacting : ∀ acted, phase = .acting acted → decision = .approve ∧ acted = owned) :
    Deciding state decision userId id phase where
  status := hdeciding.status
  fresh hmay := by
    rcases hdeciding.fresh hmay with hfresh | ⟨-, hphase⟩
    · exact .inl hfresh
    · contradiction
  found _ := by
    unfold Database.statusOf Database.mayFind
    rw [howned.candidate]
    exact ⟨rfl, howned.owner⟩
  acting acted hphase := by
    obtain ⟨happrove, rfl⟩ := hacting acted hphase
    unfold Database.mayAct
    rw [howned.candidate, Option.all_some, howned.rule]
    exact ⟨happrove, rfl⟩

/-- Whatever task takes its turn. -/
theorem turnKeeps {task : MailTask} (input : MailTurn) (horderly : Orderly pool)
    (hallowed : task.Allowed pool.shared) :
    TurnKeeps pool.shared (task.turn input pool.shared).1 task (task.turn input pool.shared).2 := by
  cases task with
  | ended => exact turnKeeps_same horderly trivial fun _ _ _ hdecision => hdecision
  | scanning rest =>
      cases rest with
      | done result => exact turnKeeps_same horderly trivial (stays_ended _)
      | await effect rest =>
          obtain ⟨hstep, hrest⟩ := hallowed pool.shared.server
          exact turnKeeps_scan horderly hstep hrest
  | deciding decision userId id phase =>
      have hturn := @decision_turn pool.shared decision userId id input phase
      generalize hstate : (MailTask.turn input pool.shared (.deciding decision userId id phase)).1 =
        state' at hturn ⊢
      generalize htask : (MailTask.turn input pool.shared (.deciding decision userId id phase)).2 =
        task' at hturn ⊢
      cases hturn with
      | stopped => exact turnKeeps_same horderly trivial (stays_ended _)
      | toAct owned howned hdecision =>
          refine turnKeeps_same horderly ?_ fun _ _ _ hdecision => hdecision
          apply hallowed.found_next howned
          intro acted hphase
          exact ⟨hdecision, (DecisionPhase.acting.inj hphase).symm⟩
      | toWrite owned howned hdecision =>
          refine turnKeeps_same horderly ?_ fun _ _ _ hdecision => hdecision
          exact hallowed.found_next howned fun _ hphase => nomatch hphase
      | acted owned server calls next hrefreshes hlength hcalls hnext =>
          exact turnKeeps_acted horderly hallowed hrefreshes hlength hcalls hnext
      | written now row hfind server hdb =>
          exact turnKeeps_written horderly hallowed hfind hdb

theorem apart_scanning {db : Database} (task : MailTask)
    (rest : Program Exception MailServer PUnit) : task.Apart db (.scanning rest) := by
  intro id first second _ hsecond
  rw [MailTask.decision] at hsecond
  contradiction

/-- A decision that may be begun is compatible with those that are running. -/
theorem allowed_decide (hmay : MailboxState.MayDecide pool decision userId id) :
    Deciding pool.shared decision userId id .findOwned where
  status hfind := (hmay hfind).1
  fresh hfind := .inl (hmay hfind).2.2
  found hphase := absurd rfl hphase
  acting _ hphase := nomatch hphase

theorem apart_decide (hmay : MailboxState.MayDecide pool decision userId id) {task : MailTask}
    (htask : task ∈ pool.tasks) {phase : DecisionPhase} :
    task.Apart pool.shared.server.db (.deciding decision userId id phase) := by
  intro candidate first second hfirst hsecond
  rw [MailTask.decision] at hsecond
  split at hsecond
  next hrunning =>
    obtain ⟨rfl, hfind⟩ := hrunning
    obtain rfl := Option.some.inj hsecond
    exact ((hmay hfind).2.1 first (List.mem_filterMap.mpr ⟨task, htask, hfirst⟩)).symm
  next => contradiction

theorem orderly_start {unicode : UnicodeData} (what : MailStart) (horderly : Orderly pool)
    (hmay : MailboxState.MayMove pool (.start what)) :
    Orderly ⟨pool.shared, pool.tasks ++ [what.task unicode]⟩ := by
  have hnew : (what.task unicode).Allowed pool.shared ∧
      ∀ task ∈ pool.tasks, task.Apart pool.shared.server.db (what.task unicode) := by
    cases what with
    | scan userId providers faults freshId =>
        exact ⟨always_scan providers.property userId, fun task _ => apart_scanning task _⟩
    | scanAll providers faults freshId =>
        exact ⟨always_scanAll providers.property, fun task _ => apart_scanning task _⟩
    | decide decision userId id =>
        exact ⟨allowed_decide hmay, fun task htask => apart_decide hmay htask⟩
  refine ⟨fun task htask => ?_, ?_, horderly.once, horderly.spared⟩
  · rcases List.mem_append.mp htask with hold | hlast
    · exact horderly.allowed task hold
    · rw [List.mem_singleton.mp hlast]
      exact hnew.1
  · refine List.pairwise_append.mpr ⟨horderly.apart, List.pairwise_singleton _ _, ?_⟩
    intro task htask other hother
    rw [List.mem_singleton.mp hother]
    exact hnew.2 task htask

/-- One move keeps the order, and what was decided stays decided. -/
theorem orderly_step {unicode : UnicodeData} (move : Move MailStart MailTurn)
    (horderly : Orderly pool) (hmay : MailboxState.MayMove pool move) :
    Orderly (MailboxState.step unicode pool move) ∧
      Proceeds pool.shared (MailboxState.step unicode pool move).shared := by
  cases move with
  | start what => exact ⟨orderly_start what horderly hmay, Proceeds.refl _⟩
  | turn index input =>
      cases htask : pool.tasks[index]? with
      | none =>
          unfold MailboxState.step
          rw [Pool.step_turn_of_none _ _ htask]
          exact ⟨horderly, Proceeds.refl _⟩
      | some task =>
          unfold MailboxState.step
          rw [Pool.step_turn _ _ htask]
          have hturn := turnKeeps input horderly
            (horderly.allowed task (List.mem_of_getElem? htask))
          exact ⟨horderly.turn htask hturn, hturn.proceeds⟩

end Moves

/-! ## Every run -/

section Runs

variable {unicode : UnicodeData} {pool : Pool MailboxState MailTask}
  {first second : List (Move MailStart MailTurn)}

theorem orderly_run {before : MailboxState} (horderly : Orderly pool)
    (hproceeds : Proceeds before pool.shared)
    (halong : Along (MailboxState.step unicode) MailboxState.MayMove pool second) :
    Orderly (run (MailboxState.step unicode) pool second) ∧
      Proceeds before (run (MailboxState.step unicode) pool second).shared := by
  apply @run_invariant _ _ _ _ (fun pool => Orderly pool ∧ Proceeds before pool.shared)
    ?_ _ _ ⟨horderly, hproceeds⟩ halong
  rintro pool move ⟨horderly, hproceeds⟩ hmay
  obtain ⟨hnext, hstep⟩ := orderly_step move horderly hmay
  exact ⟨hnext, hproceeds.trans hstep⟩

/-- When no decision is begun that something speaks against, every candidate is
decided once, whatever turns the requests take. -/
theorem decidedOnce (htasks : pool.tasks = []) (hmade : pool.shared.made = [])
    (halong : Along (MailboxState.step unicode) MailboxState.MayMove pool (first ++ second)) :
    MailboxState.DecidedOnce (run (MailboxState.step unicode) pool first).shared
      (run (MailboxState.step unicode) pool (first ++ second)).shared := by
  obtain ⟨hfirst, hsecond⟩ := along_append.mp halong
  have hnone : ∀ id, pool.shared.successes id = [] := by
    intro id
    unfold MailboxState.successes MailboxState.callsFor
    rw [hmade]
    rfl
  have horderly : Orderly pool := by
    refine ⟨?_, ?_, fun id => ?_, fun id hacted => absurd (hnone id) hacted⟩
    · rw [htasks]
      exact fun task htask => absurd htask List.not_mem_nil
    · rw [htasks]
      exact List.Pairwise.nil
    · rw [hnone]
      exact Nat.zero_le 1
  obtain ⟨hbefore, -⟩ := orderly_run horderly (Proceeds.refl _) hfirst
  obtain ⟨hlater, hproceeds⟩ := orderly_run hbefore (Proceeds.refl _) hsecond
  rw [run_append]
  exact
    { final := hproceeds.final
      excluded := hproceeds.excluded
      spared := fun id hacted => by
        apply hlater.spared id
        obtain ⟨call, hcall⟩ := List.exists_mem_of_ne_nil _ hacted
        exact List.ne_nil_of_mem (hproceeds.kept id hcall)
      once := hlater.once }

end Runs

/-! ## An exclusion that is overridden -/

namespace MailServer.OneMessage

open CandidatesService.OneMessage

/-- The user's mailbox with a rule that deletes all its mail. -/
def watched : Pool MailboxState MailTask :=
  ⟨⟨after asciiData noMail ((scanned "delete_candidate").take 2), []⟩, []⟩

/-- The turns of one task, when nothing fails. -/
def turns (index count : Nat) : List (Move MailStart MailTurn) :=
  List.replicate count (.turn index ⟨1, providers, none⟩)

def scanMoves (index : Nat) : List (Move MailStart MailTurn) :=
  .start (.scan "u" providers .none freshId) :: turns index 5

/-- The decision about the scanned mail, all its turns in a row. -/
def decideMoves (decision : Decision) (index : Nat) : List (Move MailStart MailTurn) :=
  .start (.decide decision "u" (freshId 0 0 0)) :: turns index 3

end MailServer.OneMessage

open MailServer.OneMessage CandidatesService.OneMessage in
/-- The page still shows an excluded candidate, and its approval deletes the mail. -/
theorem not_decidedOnce : ¬ MailboxState.DecidedOnce
    (run (MailboxState.step asciiData) watched (scanMoves 0 ++ decideMoves .exclude 1)).shared
    (run (MailboxState.step asciiData) watched
      ((scanMoves 0 ++ decideMoves .exclude 1) ++ decideMoves .approve 2)).shared := by
  intro hdecided
  have hexcluded := hdecided.excluded (freshId 0 0 0) (by decide +kernel)
  revert hexcluded
  decide +kernel

open MailServer.OneMessage CandidatesService.OneMessage in
/-- The candidate is scanned and approved, and scanned again. -/
theorem decidedOnce_example : MailboxState.DecidedOnce
    (run (MailboxState.step asciiData) watched (scanMoves 0 ++ decideMoves .approve 1)).shared
    (run (MailboxState.step asciiData) watched
      ((scanMoves 0 ++ decideMoves .approve 1) ++ scanMoves 2)).shared :=
  decidedOnce rfl rfl (by decide +kernel)

end MyAccountController
