import MyAccountController.Foundation.Handler
import MyAccountController.Foundation.Run
import Mathlib.Data.List.Perm.Basic

/-! # Tasks that take turns

A task runs from one await point to the next without interruption, and between
two of its turns any other task may take turns. An invariant of a pool of tasks
is a property of the shared state and a property of each task, kept by the
turns of the task itself and not disturbed by the turns of the others.
-/

namespace Foundation

/-- The shared state and the tasks started so far, oldest first. -/
@[ext] structure Pool (Shared Task : Type) where
  shared : Shared
  tasks : List Task

/-- What happens next: something starts, or a started task takes its turn. -/
inductive Move (Start Input : Type) where
  | start (what : Start)
  | turn (index : Nat) (input : Input)

namespace Pool

variable {Shared Task Start Input : Type}

section Step

variable (start : Start → Shared → Shared × Option Task)
  (turn : Input → Shared → Task → Shared × Task)

/-- One move. A start that answers no task only changes the shared state. -/
def step (pool : Pool Shared Task) : Move Start Input → Pool Shared Task
  | .start what =>
      ⟨(start what pool.shared).1, pool.tasks ++ (start what pool.shared).2.toList⟩
  | .turn index input =>
      match pool.tasks[index]? with
      | none => pool
      | some task =>
          ⟨(turn input pool.shared task).1, pool.tasks.set index (turn input pool.shared task).2⟩

/-- A condition on turns, in the state the turn is taken in. -/
def TurnMeets (condition : Input → Shared → Task → Prop) (pool : Pool Shared Task) :
    Move Start Input → Prop
  | .start _ => True
  | .turn index input => ∀ task ∈ pool.tasks[index]?, condition input pool.shared task

instance (condition : Input → Shared → Task → Prop)
    [∀ input shared task, Decidable (condition input shared task)] (pool : Pool Shared Task) :
    ∀ move : Move Start Input, Decidable (TurnMeets condition pool move)
  | .start _ => isTrue trivial
  | .turn index input =>
      inferInstanceAs (Decidable (∀ task ∈ pool.tasks[index]?, condition input pool.shared task))

@[simp] theorem step_start (pool : Pool Shared Task) (what : Start) :
    pool.step start turn (.start what) =
      ⟨(start what pool.shared).1, pool.tasks ++ (start what pool.shared).2.toList⟩ := rfl

theorem step_turn {pool : Pool Shared Task} {index : Nat} {input : Input} {task : Task}
    (htask : pool.tasks[index]? = some task) :
    pool.step start turn (.turn index input) =
      ⟨(turn input pool.shared task).1,
        pool.tasks.set index (turn input pool.shared task).2⟩ := by
  rw [step, htask]

theorem step_turn_of_none {pool : Pool Shared Task} {index : Nat} {input : Input}
    (htask : pool.tasks[index]? = none) :
    pool.step start turn (.turn index input) = pool := by
  rw [step, htask]

end Step

/-! ## Invariants -/

variable {start : Start → Shared → Shared × Option Task}
  {turn : Input → Shared → Task → Shared × Task} {condition : Input → Shared → Task → Prop}
  {invariant : Shared → Prop} {own : Shared → Task → Prop}

/-- An invariant of the shared state with one of each task. -/
structure Stable (start : Start → Shared → Shared × Option Task)
    (turn : Input → Shared → Task → Shared × Task) (condition : Input → Shared → Task → Prop)
    (invariant : Shared → Prop) (own : Shared → Task → Prop) : Prop where
  start_invariant : ∀ what shared, invariant shared → invariant (start what shared).1
  start_own : ∀ what shared, invariant shared → ∀ task ∈ (start what shared).2,
    own (start what shared).1 task
  start_other : ∀ what shared other, invariant shared → own shared other →
    own (start what shared).1 other
  turn_invariant : ∀ input shared task, invariant shared → own shared task →
    condition input shared task → invariant (turn input shared task).1
  turn_own : ∀ input shared task, invariant shared → own shared task →
    condition input shared task → own (turn input shared task).1 (turn input shared task).2
  turn_other : ∀ input shared task other, invariant shared → own shared task →
    condition input shared task → own shared other → own (turn input shared task).1 other

/-- The invariant holds of the shared state, and each task has its own. -/
def Holds (invariant : Shared → Prop) (own : Shared → Task → Prop)
    (pool : Pool Shared Task) : Prop :=
  invariant pool.shared ∧ ∀ task ∈ pool.tasks, own pool.shared task

theorem Stable.step (hstable : Stable start turn condition invariant own)
    (pool : Pool Shared Task) (move : Move Start Input) (hholds : Holds invariant own pool)
    (hmeets : TurnMeets condition pool move) :
    Holds invariant own (pool.step start turn move) := by
  obtain ⟨hshared, htasks⟩ := hholds
  cases move with
  | start what =>
      refine ⟨hstable.start_invariant what _ hshared, fun task htask => ?_⟩
      rcases List.mem_append.mp htask with hold | hnew
      · exact hstable.start_other what _ task hshared (htasks task hold)
      · exact hstable.start_own what _ hshared task (Option.mem_toList.mp hnew)
  | turn index input =>
      cases htask : pool.tasks[index]? with
      | none =>
          rw [step_turn_of_none _ _ htask]
          exact ⟨hshared, htasks⟩
      | some task =>
          have hmeets := hmeets task htask
          have hown := htasks task (List.mem_of_getElem? htask)
          rw [step_turn _ _ htask]
          refine ⟨hstable.turn_invariant input _ task hshared hown hmeets, fun other hother => ?_⟩
          rcases List.mem_or_eq_of_mem_set hother with hold | rfl
          · exact hstable.turn_other input _ task other hshared hown hmeets (htasks other hold)
          · exact hstable.turn_own input _ task hshared hown hmeets

/-- A stable invariant holds at the end of every run whose turns all meet the
condition. -/
theorem Stable.run (hstable : Stable start turn condition invariant own)
    {pool : Pool Shared Task} {moves : List (Move Start Input)}
    (hinit : Holds invariant own pool)
    (halong : Along (Pool.step start turn) (TurnMeets condition) pool moves) :
    Holds invariant own (run (Pool.step start turn) pool moves) :=
  run_invariant hstable.step hinit halong

end Pool

/-! ## What the tasks have contributed -/

section Contributions

variable {Task Entry : Type} {contribution : Task → Option Entry} {tasks : List Task} {index : Nat}
  {task task' : Task}

/-- A turn that changes no contribution. -/
theorem filterMap_set_of_eq (htask : tasks[index]? = some task)
    (hsame : contribution task' = contribution task) :
    (tasks.set index task').filterMap contribution = tasks.filterMap contribution := by
  induction tasks generalizing index with
  | nil => rfl
  | cons first rest ih =>
      cases index with
      | zero =>
          obtain rfl := Option.some.inj htask
          rw [List.set_cons_zero, List.filterMap_cons, List.filterMap_cons, hsame]
      | succ index =>
          rw [List.set_cons_succ, List.filterMap_cons, List.filterMap_cons, ih htask]

/-- A turn in which a task makes its contribution. -/
theorem filterMap_set_perm (htask : tasks[index]? = some task) (hbefore : contribution task = none)
    {entry : Entry} (hafter : contribution task' = some entry) :
    ((tasks.set index task').filterMap contribution).Perm
      (tasks.filterMap contribution ++ [entry]) := by
  induction tasks generalizing index with
  | nil => contradiction
  | cons first rest ih =>
      cases index with
      | zero =>
          obtain rfl := Option.some.inj htask
          rw [List.set_cons_zero, List.filterMap_cons_some hafter, List.filterMap_cons_none hbefore]
          exact @List.perm_append_comm _ [entry] _
      | succ index =>
          rw [List.set_cons_succ]
          cases hfirst : contribution first with
          | none =>
              rw [List.filterMap_cons_none hfirst, List.filterMap_cons_none hfirst]
              exact ih htask
          | some other =>
              rw [List.filterMap_cons_some hfirst, List.filterMap_cons_some hfirst]
              exact (ih htask).cons other

end Contributions

/-! ## Tasks that keep apart -/

section Apart

variable {Task : Type} {apart : Task → Task → Prop} {tasks : List Task} {index : Nat}
  {task task' other : Task}

/-- After a turn, another task than the one that took it is apart from that. -/
theorem apart_of_mem_set (hsymm : ∀ a b, apart a b → apart b a) (hapart : tasks.Pairwise apart)
    (htask : tasks[index]? = some task) (hother : other ∈ tasks.set index task') :
    other = task' ∨ other ∈ tasks ∧ apart task other := by
  induction tasks generalizing index with
  | nil => contradiction
  | cons first rest ih =>
      obtain ⟨hfirst, hrest⟩ := List.pairwise_cons.mp hapart
      cases index with
      | zero =>
          obtain rfl := Option.some.inj htask
          rcases List.mem_cons.mp hother with rfl | hmem
          · exact .inl rfl
          · exact .inr ⟨List.mem_cons_of_mem _ hmem, hfirst other hmem⟩
      | succ index =>
          rcases List.mem_cons.mp hother with rfl | hmem
          · have hstored : task ∈ rest := List.mem_of_getElem? htask
            exact .inr ⟨List.mem_cons_self, hsymm _ _ (hfirst task hstored)⟩
          · rcases ih hrest htask hmem with rfl | ⟨hmem, hapart⟩
            · exact .inl rfl
            · exact .inr ⟨List.mem_cons_of_mem _ hmem, hapart⟩

/-- A task that differs from the one that takes its turn stays in the pool. -/
theorem mem_set_of_ne (htask : tasks[index]? = some task) (hother : other ∈ tasks)
    (hne : other ≠ task) : other ∈ tasks.set index task' := by
  obtain ⟨j, hj⟩ := List.getElem?_of_mem hother
  have hindex : index ≠ j := by
    rintro rfl
    exact hne (Option.some.inj (hj.symm.trans htask))
  apply List.mem_of_getElem?
  rw [List.getElem?_set_ne hindex]
  exact hj

theorem mem_set_self (htask : tasks[index]? = some task) : task' ∈ tasks.set index task' :=
  List.mem_set (List.getElem?_eq_some_iff.mp htask).1 task'

/-- A turn keeps the tasks apart when the task stays apart from the others. -/
theorem pairwise_set (hsymm : ∀ a b, apart a b → apart b a)
    (hstays : ∀ other ∈ tasks, apart task other → apart task' other)
    (hapart : tasks.Pairwise apart) (htask : tasks[index]? = some task) :
    (tasks.set index task').Pairwise apart := by
  induction tasks generalizing index with
  | nil => exact hapart
  | cons first rest ih =>
      obtain ⟨hfirst, hrest⟩ := List.pairwise_cons.mp hapart
      cases index with
      | zero =>
          obtain rfl := Option.some.inj htask
          refine List.pairwise_cons.mpr ⟨fun other hmem => ?_, hrest⟩
          exact hstays other (List.mem_cons_of_mem _ hmem) (hfirst other hmem)
      | succ index =>
          have hlater : (rest.set index task').Pairwise apart :=
            ih (fun other hmem => hstays other (List.mem_cons_of_mem _ hmem)) hrest htask
          refine List.pairwise_cons.mpr ⟨fun other hmem => ?_, hlater⟩
          rcases List.mem_or_eq_of_mem_set hmem with hold | rfl
          · exact hfirst other hold
          · have hstored : task ∈ rest := List.mem_of_getElem? htask
            have hown : apart task first := hsymm _ _ (hfirst task hstored)
            exact hsymm _ _ (hstays first List.mem_cons_self hown)

end Apart

/-! ## One task alone -/

/-- The turns of one task in a row, at most the given number of them. A turn
answers the phase the task waits in next, or none when the task has ended. -/
def inRow {ε σ Phase : Type} (turn : Phase → Handler ε σ (Option Phase)) :
    Nat → Phase → Handler ε σ Unit
  | 0, _ => pure ()
  | count + 1, phase => do
      match ← turn phase with
      | none => pure ()
      | some next => inRow turn count next

/-- The same turns when what the task waits for may fail: the exception of wait
`i` is `failure i`, and the turn after a failed wait is not taken. -/
def inRowFailing {ε σ Phase : Type} (turn : Phase → Handler ε σ (Option Phase)) :
    Nat → (Nat → Option ε) → Phase → Handler ε σ Unit
  | 0, _, _ => pure ()
  | count + 1, failure, phase =>
      match failure 0 with
      | some e => Handler.raise e
      | none => do
          match ← turn phase with
          | none => pure ()
          | some next => inRowFailing turn count (fun i => failure (i + 1)) next

section Failing

variable {ε σ Phase : Type} {turn : Phase → Handler ε σ (Option Phase)}

/-- When no wait fails the turns are those of the task alone. -/
theorem inRowFailing_eq_inRow {count : Nat} {failure : Nat → Option ε}
    (hfailure : ∀ i < count, failure i = none) (phase : Phase) :
    inRowFailing turn count failure phase = inRow turn count phase := by
  induction count generalizing failure phase with
  | zero => rfl
  | succ count ih =>
      have hrest : ∀ i < count, failure (i + 1) = none :=
        fun i hi => hfailure (i + 1) (Nat.succ_lt_succ hi)
      rw [inRowFailing, hfailure 0 (Nat.succ_pos count)]
      refine congrArg (fun rest => turn phase >>= rest) (funext fun next => ?_)
      cases next with
      | none => rfl
      | some next => exact ih hrest next

theorem inRowFailing_of_failure {count : Nat} {failure : Nat → Option ε} {phase : Phase} {e : ε}
    (hfailure : failure 0 = some e) :
    inRowFailing turn (count + 1) failure phase = Handler.raise e := by
  rw [inRowFailing, hfailure]

/-- A turn that is taken and goes on. -/
theorem inRowFailing_next {count : Nat} {failure : Nat → Option ε} {phase next : Phase} {s s' : σ}
    (hfailure : failure 0 = none) (hturn : turn phase s = (.ok (some next), s')) :
    inRowFailing turn (count + 1) failure phase s =
      inRowFailing turn count (fun i => failure (i + 1)) next s' := by
  rw [inRowFailing, hfailure]
  exact Handler.bind_of_ok hturn

/-- An exception comes from the first wait, from the first turn or from the rest. -/
theorem inRowFailing_error_cases {count : Nat} {failure : Nat → Option ε} {phase : Phase}
    {s s' : σ} {e : ε} (hrun : inRowFailing turn (count + 1) failure phase s = (.error e, s')) :
    s' = s ∨ failure 0 = none ∧ (turn phase s = (.error e, s') ∨ ∃ next middle,
      turn phase s = (.ok (some next), middle) ∧
        inRowFailing turn count (fun i => failure (i + 1)) next middle = (.error e, s')) := by
  cases hfailure : failure 0 with
  | some e' =>
      rw [inRowFailing_of_failure hfailure] at hrun
      exact .inl (Prod.mk.inj hrun).2.symm
  | none =>
      rw [inRowFailing, hfailure] at hrun
      refine .inr ⟨rfl, ?_⟩
      rcases Handler.bind_error_iff.mp hrun with hfailed | ⟨next, middle, hok, hrest⟩
      · exact .inl hfailed
      · cases next with
        | none => exact absurd (congrArg Prod.fst hrest) (by simp)
        | some next => exact .inr ⟨next, middle, hok, hrest⟩

/-- A task that has ended has not failed at its first wait. -/
theorem inRowFailing_ok_cases {count : Nat} {failure : Nat → Option ε} {phase : Phase}
    {s s' : σ} {u : Unit} (hrun : inRowFailing turn (count + 1) failure phase s = (.ok u, s')) :
    failure 0 = none ∧ ∃ next middle, turn phase s = (.ok next, middle) ∧
      ∀ phase', next = some phase' →
        inRowFailing turn count (fun i => failure (i + 1)) phase' middle = (.ok u, s') := by
  cases hfailure : failure 0 with
  | some e' =>
      rw [inRowFailing_of_failure hfailure] at hrun
      exact absurd (congrArg Prod.fst hrun) (by simp)
  | none =>
      rw [inRowFailing, hfailure] at hrun
      obtain ⟨next, middle, hok, hrest⟩ := Handler.bind_ok_iff.mp hrun
      refine ⟨rfl, next, middle, hok, ?_⟩
      rintro phase' rfl
      exact hrest

/-- A task all of whose turns but the last one keep a relation keeps it when it
ends in an exception, whichever wait or turn raised it. -/
theorem inRowFailing_error {related : σ → σ → Prop} (hrefl : ∀ s, related s s)
    (htrans : ∀ a b c, related a b → related b c → related a c)
    (hturn : ∀ phase s result s', turn phase s = (result, s') → result ≠ .ok none → related s s')
    {count : Nat} {failure : Nat → Option ε} {phase : Phase} {s s' : σ} {e : ε}
    (hrun : inRowFailing turn count failure phase s = (.error e, s')) : related s s' := by
  induction count generalizing failure phase s with
  | zero => exact absurd (congrArg Prod.fst hrun) (by simp [inRowFailing])
  | succ count ih =>
      rcases inRowFailing_error_cases hrun with rfl | ⟨-, hfailed | ⟨next, middle, hok, hrest⟩⟩
      · exact hrefl s'
      · exact hturn phase s _ s' hfailed (by simp)
      · exact htrans _ _ _ (hturn phase s _ middle hok (by simp)) (ih hrest)

end Failing

end Foundation
