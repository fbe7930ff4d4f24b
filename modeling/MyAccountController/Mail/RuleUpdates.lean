import MyAccountController.Foundation.Interleaving
import MyAccountController.Mail.RulesService

/-! # Updates of one rule at the same time

The transaction of an update deletes the conditions of the rule and then inserts
those of the request. At the level READ COMMITTED the deletion sees the rows that
were committed before it began, so it can miss what another update inserts.
-/

namespace MyAccountController

open Foundation RulesService

/-! ## The transaction of an update -/

/-- A call of `RulesService.update` that carries conditions. -/
structure UpdateCall where
  userId : String
  data : JsObject
  conditionId : Nat → String
  carries : (RuleInput.truthy data "conditions").isSome = true

namespace UpdateCall

/-- The submitted conditions. -/
def submitted (call : UpdateCall) : List ConditionInput :=
  match RuleInput.conditions (RuleInput.truthy call.data "conditions") with
  | .ok inputs => inputs
  | .error _ => []

/-- The rows that the call inserts. -/
def rows (call : UpdateCall) (ruleId : String) : List EmailRuleCondition :=
  newConditions call.conditionId ruleId call.submitted

/-- The transaction, when its deletion sees the visible rows only. -/
def write (call : UpdateCall) (ruleId : String) (visible : String → Bool) :
    Query RuleWithConditions :=
  Handler.transaction do
    let _ ← Prisma.emailRuleCondition.deleteMany fun row => row.ruleId = ruleId ∧ visible row.id
    let changes ← Handler.ofExcept (RuleInput.changes call.data)
    let rule ← Prisma.emailRule.update ruleId changes.apply changes.apply_unindexed
    createConditions call.conditionId ruleId changes.conditions
    included rule

/-- Alone, the deletion sees all rows. -/
theorem write_alone (call : UpdateCall) (ruleId : String) :
    (do
      let _ ← findOwned call.userId ruleId
      call.write ruleId fun _ => true) =
      RulesService.update call.userId ruleId call.conditionId call.data := by
  have := @Handler.lawfulMonad Exception Database
  unfold RulesService.update write dropConditions
  rw [if_pos call.carries]
  simp only [bind_assoc, pure_bind, and_true]

end UpdateCall

/-! ## The system -/

/-- Where a call is. The other statements of the transaction write rows that are seen at its
commit only, so they are one turn with the commit. -/
inductive UpdateProgress where
  | finding
  /-- The deletion is to begin. -/
  | beginning
  /-- The deletion has begun, after this many commits. -/
  | deleting (since : Nat)
  | ended (result : Except Exception RuleWithConditions)

structure UpdateTask where
  call : UpdateCall
  progress : UpdateProgress

/-- The committed rows. A condition is visible to a statement that has begun after the commit
it was born in. -/
structure Committed where
  db : Database
  commits : Nat
  born : String → Nat

namespace Committed

/-- One turn. Waiting for the lock of a row is a turn that is not taken yet. -/
def turn (ruleId : String) (_now : Unit) (state : Committed) (task : UpdateTask) :
    Committed × UpdateTask :=
  match task.progress with
  | .finding =>
      match (findOwned task.call.userId ruleId state.db).1 with
      | .ok _ => (state, { task with progress := .beginning })
      | .error err => (state, { task with progress := .ended (.error err) })
  | .beginning => (state, { task with progress := .deleting state.commits })
  | .deleting since =>
      match task.call.write ruleId (fun id => state.born id ≤ since) state.db with
      | (.ok rule, db) =>
          let created := (task.call.rows ruleId).map EmailRuleCondition.id
          ({ db
             commits := state.commits + 1
             born := fun id => if id ∈ created then state.commits + 1 else state.born id },
            { task with progress := .ended (.ok rule) })
      | (.error err, db) => ({ state with db }, { task with progress := .ended (.error err) })
  | .ended _ => (state, task)

/-- One move of the system. -/
def step (ruleId : String) :
    Pool Committed UpdateTask → Move UpdateCall Unit → Pool Committed UpdateTask :=
  Pool.step (fun call state => (state, some ⟨call, .finding⟩)) (turn ruleId)

/-- Before the calls, all rows are committed. -/
def initial (db : Database) : Pool Committed UpdateTask := ⟨⟨db, 0, fun _ => 0⟩, []⟩

/-- The conditions of the rule. -/
def conditionsOf (ruleId : String) (state : Committed) : List EmailRuleCondition :=
  state.db.emailRuleConditions.rows.filter fun row => row.ruleId = ruleId

end Committed

/-! ## The law and its condition -/

namespace UpdateTask

def succeeded (task : UpdateTask) : Bool :=
  match task.progress with
  | .ended (.ok _) => true
  | .ended (.error _) | .finding | .beginning | .deleting _ => false

/-- The deletion is to begin. -/
def isBeginning (task : UpdateTask) : Bool :=
  match task.progress with
  | .beginning => true
  | .finding | .deleting _ | .ended _ => false

/-- The deletion has begun, and the transaction has not ended. -/
def isDeleting (task : UpdateTask) : Bool :=
  match task.progress with
  | .deleting _ => true
  | .finding | .beginning | .ended _ => false

/-- The rule says what the call has submitted. -/
def Prevails (ruleId : String) (state : Committed) (task : UpdateTask) : Prop :=
  task.succeeded = true ∧ (state.conditionsOf ruleId).map EmailRuleCondition.content =
    task.call.submitted.map ConditionInput.content

end UpdateTask

/-- Once all calls have succeeded, the conditions of the rule are those of one of them, and
the rule matches the messages that it would match with the rows of that call. -/
def OneListPrevails (ruleId : String) (pool : Pool Committed UpdateTask) : Prop :=
  pool.tasks ≠ [] → (∀ task ∈ pool.tasks, task.succeeded = true) →
    ∃ task ∈ pool.tasks, task.Prevails ruleId pool.shared ∧ ∀ unicode message rule,
      RuleMatcher.messageMatchesRule unicode message ⟨rule, pool.shared.conditionsOf ruleId⟩ =
        RuleMatcher.messageMatchesRule unicode message ⟨rule, task.call.rows ruleId⟩

/-- Not both have conditions to insert. -/
def OneIsEmpty (a b : UpdateCall) : Prop := a.submitted = [] ∨ b.submitted = []

instance (a b : UpdateCall) : Decidable (OneIsEmpty a b) :=
  decidable_of_iff (a.submitted.isEmpty = true ∨ b.submitted.isEmpty = true)
    (by simp [OneIsEmpty])

namespace Committed

/-- A deletion begins only while no other transaction is between its deletion and its end,
unless one of the two calls has no conditions to insert. -/
def MayMove (pool : Pool Committed UpdateTask) : Move UpdateCall Unit → Prop
  | .start _ => True
  | .turn index _ => ∀ task ∈ pool.tasks[index]?, ∀ other ∈ pool.tasks,
      task.isBeginning = true → other.isDeleting = true →
        OneIsEmpty task.call other.call

instance (pool : Pool Committed UpdateTask) : ∀ move, Decidable (MayMove pool move)
  | .start _ => isTrue trivial
  | .turn index _ => inferInstanceAs (Decidable (∀ task ∈ pool.tasks[index]?, _))

end Committed

/-! ## What a transaction writes -/

theorem changes_conditions {data : JsObject} {changes : RuleChanges}
    (hchanges : RuleInput.changes data = .ok changes) :
    RuleInput.conditions (RuleInput.truthy data "conditions") = .ok changes.conditions := by
  unfold RuleInput.changes at hchanges
  obtain ⟨logicalOperator, -, hrest⟩ := AccountInput.bind_ok_iff.mp hchanges
  obtain ⟨actionType, -, hrest⟩ := AccountInput.bind_ok_iff.mp hrest
  obtain ⟨isActive, -, hrest⟩ := AccountInput.bind_ok_iff.mp hrest
  obtain ⟨conditions, hconditions, hrest⟩ := AccountInput.bind_ok_iff.mp hrest
  obtain rfl := Except.ok.inj hrest
  exact hconditions

section Writes

variable {call : UpdateCall} {ruleId : String} {visible : String → Bool} {db db' : Database}

theorem write_ok {rule : RuleWithConditions}
    (hrun : call.write ruleId visible db = (.ok rule, db')) :
    db'.emailRuleConditions.rows =
      db.emailRuleConditions.rows.filter (fun row => ! (row.ruleId = ruleId ∧ visible row.id)) ++
        call.rows ruleId := by
  unfold UpdateCall.write at hrun
  replace hrun := Handler.transaction_ok_iff.mp hrun
  rw [Handler.bind_of_ok (Model.deleteMany_run _ _ db)] at hrun
  obtain ⟨changes, _, hchanges, hrun⟩ := Handler.bind_ok_iff.mp hrun
  obtain ⟨hnamed, rfl⟩ := Prod.mk.inj hchanges
  obtain ⟨row, middle, hupdate, hrun⟩ := Handler.bind_ok_iff.mp hrun
  obtain ⟨-, rfl⟩ := (Model.update_ok_iff _).mp hupdate
  obtain ⟨_, last, hcreated, hrun⟩ := Handler.bind_ok_iff.mp hrun
  obtain ⟨-, rfl⟩ := Prod.mk.inj hrun
  have hsubmitted : call.submitted = changes.conditions := by
    unfold UpdateCall.submitted
    rw [changes_conditions hnamed]
  unfold UpdateCall.rows
  rw [hsubmitted]
  refine (createConditions_ok hcreated).trans (congrArg (· ++ _) ?_)
  exact Table.rows_deleteWhere _ _

theorem write_error {e : Exception} (hrun : call.write ruleId visible db = (.error e, db')) :
    db' = db :=
  (Handler.transaction_error_iff.mp hrun).2.symm

/-- The inserted rows are conditions of the rule. -/
theorem ruleId_of_mem_rows {row : EmailRuleCondition} (hrow : row ∈ call.rows ruleId) :
    row.ruleId = ruleId := by
  obtain ⟨item, -, rfl⟩ := List.mem_map.mp hrow
  rfl

/-- The conditions of the rule after a transaction: those it has not seen, and its own. -/
theorem conditionsOf_write {rule : RuleWithConditions} {state : Committed} {since : Nat}
    (hrun : call.write ruleId (fun id => state.born id ≤ since) state.db = (.ok rule, db')) :
    db'.emailRuleConditions.rows.filter (fun row => row.ruleId = ruleId) =
      (state.conditionsOf ruleId).filter (fun row => ! decide (state.born row.id ≤ since)) ++
        call.rows ruleId := by
  have hown : (call.rows ruleId).filter (fun row => row.ruleId = ruleId) = call.rows ruleId := by
    apply List.filter_eq_self.mpr
    exact fun row hrow => decide_eq_true (ruleId_of_mem_rows hrow)
  rw [write_ok hrun, List.filter_append, hown]
  unfold Committed.conditionsOf
  rw [List.filter_filter, List.filter_filter]
  refine congrArg (List.filter · _ ++ _) (funext fun row => ?_)
  by_cases hrule : row.ruleId = ruleId
  · simp [hrule]
  · simp [hrule]

theorem content_rows : (call.rows ruleId).map EmailRuleCondition.content =
    call.submitted.map ConditionInput.content :=
  newConditions_content _ ruleId _

end Writes

/-! ## The invariant -/

/-- Two transactions that are both under way have not both conditions to insert. -/
def UpdatesApart (a b : UpdateTask) : Prop :=
  a.isDeleting = true → b.isDeleting = true → OneIsEmpty a.call b.call

theorem UpdatesApart.symm {a b : UpdateTask} (hapart : UpdatesApart a b) : UpdatesApart b a :=
  fun hb ha => (hapart ha hb).symm

/-- A deletion sees all conditions of the rule, or none of them. Then its call inserts none,
and those of another call have prevailed. -/
def Sees (ruleId : String) (pool : Pool Committed UpdateTask) (call : UpdateCall)
    (since : Nat) : Prop :=
  (∀ row ∈ pool.shared.conditionsOf ruleId, pool.shared.born row.id ≤ since) ∨
    (∀ row ∈ pool.shared.conditionsOf ruleId, since < pool.shared.born row.id) ∧
      call.submitted = [] ∧ ∃ other ∈ pool.tasks, other.Prevails ruleId pool.shared

structure Coherent (ruleId : String) (pool : Pool Committed UpdateTask) : Prop where
  born : ∀ row ∈ pool.shared.conditionsOf ruleId, pool.shared.born row.id ≤ pool.shared.commits
  apart : pool.tasks.Pairwise UpdatesApart
  prevails : (∀ task ∈ pool.tasks, task.succeeded = false) ∨
    ∃ task ∈ pool.tasks, task.Prevails ruleId pool.shared
  sees : ∀ task ∈ pool.tasks, ∀ since, task.progress = .deleting since →
    since ≤ pool.shared.commits ∧ Sees ruleId pool task.call since

section Moves

variable {ruleId : String} {pool : Pool Committed UpdateTask} {index : Nat}
  {task task' : UpdateTask}

/-- What has prevailed still does after the turn of a task that has not succeeded. -/
theorem prevails_set (htask : pool.tasks[index]? = some task) (hnot : task.succeeded = false)
    (hprevails : ∃ other ∈ pool.tasks, other.Prevails ruleId pool.shared) :
    ∃ other ∈ pool.tasks.set index task', other.Prevails ruleId pool.shared := by
  obtain ⟨other, hother, hsucceeded, hcontent⟩ := hprevails
  refine ⟨other, mem_set_of_ne htask hother ?_, hsucceeded, hcontent⟩
  rintro rfl
  rw [hnot] at hsucceeded
  contradiction

/-- A turn that commits nothing. -/
theorem coherent_same (hcoherent : Coherent ruleId pool) (htask : pool.tasks[index]? = some task)
    (hnot : task.succeeded = false) (hnot' : task'.succeeded = false)
    (hapart : ∀ other ∈ pool.tasks, UpdatesApart task other → UpdatesApart task' other)
    (hsees : ∀ since, task'.progress = .deleting since → since = pool.shared.commits) :
    Coherent ruleId ⟨pool.shared, pool.tasks.set index task'⟩ := by
  have hsymm : ∀ a b, UpdatesApart a b → UpdatesApart b a := fun _ _ => UpdatesApart.symm
  refine ⟨hcoherent.born, pairwise_set hsymm hapart hcoherent.apart htask, ?_, ?_⟩
  · rcases hcoherent.prevails with hnone | hprevails
    · left
      intro other hother
      rcases List.mem_or_eq_of_mem_set hother with hold | rfl
      · exact hnone other hold
      · exact hnot'
    · exact .inr (prevails_set htask hnot hprevails)
  · intro other hother since hsince
    rcases List.mem_or_eq_of_mem_set hother with hold | rfl
    · obtain ⟨hle, hseen | ⟨hunseen, hempty, hprevails⟩⟩ := hcoherent.sees other hold since hsince
      · exact ⟨hle, .inl hseen⟩
      · exact ⟨hle, .inr ⟨hunseen, hempty, prevails_set htask hnot hprevails⟩⟩
    · obtain rfl := hsees since hsince
      exact ⟨Nat.le_refl _, .inl hcoherent.born⟩

/-- The commit of a transaction whose deletion has seen all conditions of the rule. -/
theorem coherent_replaced {since : Nat} {state' : Committed} {rule : RuleWithConditions}
    (hcoherent : Coherent ruleId pool) (htask : pool.tasks[index]? = some task)
    (hprogress : task.progress = .deleting since)
    (hended : task' = { task with progress := .ended (.ok rule) })
    (hrows : state'.conditionsOf ruleId = task.call.rows ruleId)
    (hcommits : state'.commits = pool.shared.commits + 1)
    (hborn : ∀ row ∈ task.call.rows ruleId, state'.born row.id = pool.shared.commits + 1) :
    Coherent ruleId ⟨state', pool.tasks.set index task'⟩ := by
  have hsymm : ∀ a b, UpdatesApart a b → UpdatesApart b a := fun _ _ => UpdatesApart.symm
  have hdeleting : task.isDeleting = true := by
    unfold UpdateTask.isDeleting
    rw [hprogress]
  have hprevails : ∃ other ∈ pool.tasks.set index task', other.Prevails ruleId state' := by
    refine ⟨task', mem_set_self htask, ?_, ?_⟩
    · rw [hended]
      rfl
    · rw [hrows, content_rows, hended]
  refine ⟨?_, ?_, .inr hprevails, ?_⟩
  · intro row hrow
    dsimp only at hrow ⊢
    rw [hrows] at hrow
    exact Nat.le_of_eq ((hborn row hrow).trans hcommits.symm)
  · refine pairwise_set hsymm (fun other _ _ htask' => ?_) hcoherent.apart htask
    rw [hended] at htask'
    contradiction
  · intro other hother otherSince hsince
    rcases apart_of_mem_set hsymm hcoherent.apart htask hother with rfl | ⟨hmem, hapart⟩
    · rw [hended] at hsince
      contradiction
    · obtain ⟨hle, -⟩ := hcoherent.sees other hmem otherSince hsince
      have hother' : other.isDeleting = true := by
        unfold UpdateTask.isDeleting
        rw [hsince]
      refine ⟨by dsimp only; omega, ?_⟩
      rcases hapart hdeleting hother' with hempty | hempty
      · left
        intro row hrow
        dsimp only at hrow
        rw [hrows, UpdateCall.rows, hempty] at hrow
        contradiction
      · right
        refine ⟨fun row hrow => ?_, hempty, hprevails⟩
        dsimp only at hrow ⊢
        rw [hrows] at hrow
        rw [hborn row hrow]
        omega

/-- The commit of a transaction that has seen no condition and inserts none. -/
theorem coherent_kept {since : Nat} {state' : Committed} {rule : RuleWithConditions}
    (hcoherent : Coherent ruleId pool) (htask : pool.tasks[index]? = some task)
    (hprogress : task.progress = .deleting since)
    (hended : task' = { task with progress := .ended (.ok rule) })
    (hrows : state'.conditionsOf ruleId = pool.shared.conditionsOf ruleId)
    (hcommits : state'.commits = pool.shared.commits + 1) (hborn : state'.born = pool.shared.born)
    (hprevails : ∃ other ∈ pool.tasks, other.Prevails ruleId pool.shared) :
    Coherent ruleId ⟨state', pool.tasks.set index task'⟩ := by
  have hsymm : ∀ a b, UpdatesApart a b → UpdatesApart b a := fun _ _ => UpdatesApart.symm
  have hnot : task.succeeded = false := by
    unfold UpdateTask.succeeded
    rw [hprogress]
  have hprevails' : ∃ other ∈ pool.tasks.set index task', other.Prevails ruleId state' := by
    obtain ⟨other, hother, hsucceeded, hcontent⟩ := @prevails_set _ _ _ _ task' htask hnot hprevails
    exact ⟨other, hother, hsucceeded, hrows ▸ hcontent⟩
  refine ⟨?_, ?_, .inr hprevails', ?_⟩
  · intro row hrow
    dsimp only at hrow ⊢
    rw [hrows] at hrow
    have hle := hcoherent.born row hrow
    rw [hborn, hcommits]
    omega
  · refine pairwise_set hsymm (fun other _ _ htask' => ?_) hcoherent.apart htask
    rw [hended] at htask'
    contradiction
  · intro other hother otherSince hsince
    rcases List.mem_or_eq_of_mem_set hother with hold | rfl
    · obtain ⟨hle, hseen⟩ := hcoherent.sees other hold otherSince hsince
      refine ⟨by dsimp only; omega, ?_⟩
      unfold Sees
      dsimp only
      rw [hrows, hborn]
      rcases hseen with hseen | ⟨hunseen, hempty, -⟩
      · exact .inl hseen
      · exact .inr ⟨hunseen, hempty, hprevails'⟩
    · rw [hended] at hsince
      contradiction

theorem coherent_turn (hcoherent : Coherent ruleId pool) (htask : pool.tasks[index]? = some task)
    (hmay : ∀ other ∈ pool.tasks, task.isBeginning = true → other.isDeleting = true →
      OneIsEmpty task.call other.call) :
    Coherent ruleId ⟨(Committed.turn ruleId () pool.shared task).1,
      pool.tasks.set index (Committed.turn ruleId () pool.shared task).2⟩ := by
  obtain ⟨call, progress⟩ := task
  cases progress with
  | ended result =>
      obtain ⟨hindex, hget⟩ := List.getElem?_eq_some_iff.mp htask
      have hsame : pool.tasks.set index ⟨call, .ended result⟩ = pool.tasks := by
        rw [← hget]
        exact List.set_getElem_self hindex
      show Coherent ruleId ⟨pool.shared, pool.tasks.set index ⟨call, .ended result⟩⟩
      rw [hsame]
      exact hcoherent
  | finding =>
      unfold Committed.turn
      dsimp only
      cases (findOwned call.userId ruleId pool.shared.db).1 with
      | ok rule =>
          exact coherent_same hcoherent htask rfl rfl (fun _ _ _ h => Bool.noConfusion h) nofun
      | error e =>
          exact coherent_same hcoherent htask rfl rfl (fun _ _ _ h => Bool.noConfusion h) nofun
  | beginning =>
      apply coherent_same hcoherent htask rfl rfl
      · exact fun other hother _ _ hdeleting => hmay other hother rfl hdeleting
      · exact fun since hsince => (UpdateProgress.deleting.inj hsince).symm
  | deleting since =>
      unfold Committed.turn
      dsimp only
      rcases hwrite : call.write ruleId (fun id => pool.shared.born id ≤ since) pool.shared.db
        with ⟨e | rule, db⟩
      · obtain rfl := write_error hwrite
        exact coherent_same hcoherent htask rfl rfl (fun _ _ _ h => Bool.noConfusion h) nofun
      · dsimp only
        have hmem := List.mem_of_getElem? htask
        have hconditions := conditionsOf_write hwrite
        obtain ⟨-, hseen | ⟨hunseen, hempty, hprevails⟩⟩ := hcoherent.sees _ hmem since rfl
        · -- The transaction sees every stored condition, so its list replaces them all.
          have hgone : (pool.shared.conditionsOf ruleId).filter
              (fun row => ! decide (pool.shared.born row.id ≤ since)) = [] := by
            apply List.filter_eq_nil_iff.mpr
            intro row hrow
            simp [hseen row hrow]
          rw [hgone, List.nil_append] at hconditions
          refine coherent_replaced hcoherent htask rfl rfl hconditions rfl fun row hrow => ?_
          exact if_pos (List.mem_map_of_mem hrow)
        · -- Every stored condition is newer than the transaction, which then has an empty list.
          have hstays : (pool.shared.conditionsOf ruleId).filter
              (fun row => ! decide (pool.shared.born row.id ≤ since)) =
                pool.shared.conditionsOf ruleId := by
            apply List.filter_eq_self.mpr
            intro row hrow
            have hlt := hunseen row hrow
            simp only [Bool.not_eq_true', decide_eq_false_iff_not]
            omega
          have hnothing : call.rows ruleId = [] := by
            unfold UpdateCall.rows
            rw [hempty]
            rfl
          rw [hstays, hnothing, List.append_nil] at hconditions
          refine coherent_kept hcoherent htask rfl rfl hconditions rfl ?_ hprevails
          funext id
          exact if_neg (by simp [hnothing])

theorem coherent_step (move : Move UpdateCall Unit) (hcoherent : Coherent ruleId pool)
    (hmay : Committed.MayMove pool move) : Coherent ruleId (Committed.step ruleId pool move) := by
  cases move with
  | start call =>
      refine ⟨hcoherent.born, ?_, ?_, ?_⟩
      · refine List.pairwise_append.mpr ⟨hcoherent.apart, List.pairwise_singleton _ _, ?_⟩
        intro other _ task htask _ hdeleting
        rw [List.mem_singleton.mp htask] at hdeleting
        contradiction
      · rcases hcoherent.prevails with hnone | ⟨task, htask, hprevails⟩
        · left
          intro task htask
          rcases List.mem_append.mp htask with hold | hnew
          · exact hnone task hold
          · rw [List.mem_singleton.mp hnew]
            rfl
        · exact .inr ⟨task, List.mem_append_left _ htask, hprevails⟩
      · intro task htask since hsince
        rcases List.mem_append.mp htask with hold | hnew
        · obtain ⟨hle, hseen | ⟨hunseen, hempty, other, hother, hprevails⟩⟩ :=
            hcoherent.sees task hold since hsince
          · exact ⟨hle, .inl hseen⟩
          · exact ⟨hle, .inr ⟨hunseen, hempty, other, List.mem_append_left _ hother, hprevails⟩⟩
        · rw [List.mem_singleton.mp hnew] at hsince
          contradiction
  | turn index now =>
      unfold Committed.step
      cases htask : pool.tasks[index]? with
      | none =>
          rw [Pool.step_turn_of_none _ _ htask]
          exact hcoherent
      | some task =>
          rw [Pool.step_turn _ _ htask]
          exact coherent_turn hcoherent htask (hmay task htask)

end Moves

/-! ## Runs -/

/-- A condition is judged by what it says. -/
theorem messageMatchesRule_content {rule : EmailRule}
    {conditions conditions' : List EmailRuleCondition}
    (hcontent : conditions.map EmailRuleCondition.content =
      conditions'.map EmailRuleCondition.content) (unicode : UnicodeData)
    (message : RawMailMessage) :
    RuleMatcher.messageMatchesRule unicode message ⟨rule, conditions⟩ =
      RuleMatcher.messageMatchesRule unicode message ⟨rule, conditions'⟩ := by
  have hevaluate : RuleMatcher.evaluateCondition unicode message =
      (fun content => RuleMatcher.evaluateCondition unicode message ⟨"", "", content.1, content.2⟩) ∘
        EmailRuleCondition.content := rfl
  have hresults : conditions.mapM (RuleMatcher.evaluateCondition unicode message) =
      conditions'.mapM (RuleMatcher.evaluateCondition unicode message) := by
    rw [hevaluate, ← List.mapM_map, ← List.mapM_map, hcontent]
  have hlength : conditions.length = conditions'.length := by
    have := congrArg List.length hcontent
    rwa [List.length_map, List.length_map] at this
  unfold RuleMatcher.messageMatchesRule
  dsimp only
  rw [hlength, hresults]

/-- When a deletion begins only while no other transaction is between its deletion and its
end, or one of the two calls has no conditions to insert, the conditions of one call prevail. -/
theorem oneListPrevails {ruleId : String} {db : Database} {moves : List (Move UpdateCall Unit)}
    (halong : Along (Committed.step ruleId) Committed.MayMove (Committed.initial db) moves) :
    OneListPrevails ruleId (run (Committed.step ruleId) (Committed.initial db) moves) := by
  have hcoherent : Coherent ruleId (run (Committed.step ruleId) (Committed.initial db) moves) := by
    apply @run_invariant _ _ _ _ (Coherent ruleId) ?_ _ _ ?_ halong
    · exact fun pool move hcoherent hmay => coherent_step move hcoherent hmay
    · exact ⟨fun _ _ => Nat.le_refl 0, List.Pairwise.nil,
        .inl fun task htask => absurd htask List.not_mem_nil,
        fun task htask => absurd htask List.not_mem_nil⟩
  intro hne hsucceeded
  rcases hcoherent.prevails with hnone | ⟨task, htask, hprevails⟩
  · obtain ⟨task, htask⟩ := List.exists_mem_of_ne_nil _ hne
    exact absurd (hsucceeded task htask) (by simp [hnone task htask])
  · refine ⟨task, htask, hprevails, fun unicode message rule => ?_⟩
    exact messageMatchesRule_content (hprevails.2.trans content_rows.symm) unicode message

/-! ## Two updates of one rule -/

namespace Committed.OneRule

def user : User := ⟨"u", "g", "me@example.com", "hash", "salt", 15, 0⟩

def mailbox : EmailAccount := ⟨"e", "u", "gmail", "me@example.com", "", "", none, true, 0⟩

def rule : EmailRule := ⟨"r", "e", .AND, "delete_candidate", true, 0⟩

def db : Database :=
  { Database.empty with
    users := ⟨[user], by decide⟩
    emailAccounts := ⟨[mailbox], by decide⟩
    emailRules := ⟨[rule], by decide⟩
    emailRuleConditions :=
      ⟨[⟨"c", "r", "has_emoji", .obj []⟩], by decide⟩ }

def body (word : String) : JsObject :=
  [("conditions", .arr [.obj [("conditionType", .str "subject_keyword"),
    ("conditionValue", .obj [("contains", .str word)])]])]

def advertisement : UpdateCall := ⟨"u", body "advertisement", fun _ => "c1", by decide⟩

def lottery : UpdateCall := ⟨"u", body "lottery", fun _ => "c2", by decide⟩

def turns (index count : Nat) : List (Move UpdateCall Unit) :=
  List.replicate count (.turn index ())

/-- Both deletions have begun before one of the transactions has committed. -/
def overlapping : List (Move UpdateCall Unit) :=
  [.start advertisement, .start lottery] ++ turns 0 2 ++ turns 1 2 ++ turns 0 1 ++ turns 1 1

def oneByOne : List (Move UpdateCall Unit) :=
  [.start advertisement, .start lottery] ++ turns 0 3 ++ turns 1 3

end Committed.OneRule

open Committed.OneRule in
/-- Both calls succeed, and the rule has the conditions of both. -/
theorem not_oneListPrevails :
    ¬ OneListPrevails "r" (run (Committed.step "r") (Committed.initial db) overlapping) := by
  intro hprevails
  have hlength : ((run (Committed.step "r") (Committed.initial db) overlapping).shared.conditionsOf
      "r").length = 2 := by decide +kernel
  obtain ⟨task, htask, ⟨-, hcontent⟩, -⟩ := hprevails (by decide +kernel) (by decide +kernel)
  have hone : ∀ task ∈ (run (Committed.step "r") (Committed.initial db) overlapping).tasks,
      task.call.submitted.length = 1 := by decide +kernel
  have hsame := congrArg List.length hcontent
  rw [List.length_map, List.length_map, hlength, hone task htask] at hsame
  contradiction

open Committed.OneRule in
theorem oneListPrevails_example :
    OneListPrevails "r" (run (Committed.step "r") (Committed.initial db) oneByOne) :=
  oneListPrevails (by decide +kernel)

end MyAccountController
