import Mathlib.Algebra.BigOperators.Group.List.Basic
import Mathlib.Algebra.Ring.Int.Defs
import MyAccountController.Foundation.Interleaving

/-! # The serial order of interleaved calls

The effect of a call takes place in one of its turns. A log of the calls, each
entered when its effect takes place, is a serial order of them if every entry is
the call run alone in the state of that moment: run one after the other, the
calls give the logged answers and leave the state reached.
-/

namespace Foundation

/-- A state, with the calls that have taken effect in it and what they answered,
oldest first. The program does not read the log. -/
@[ext] structure CallLog (State Call Answer : Type) where
  state : State
  log : List (Call × Answer)

variable {State Call Answer : Type} (method : Call → State → Answer × State)

/-- The calls one after the other: what they answer and the state they leave. -/
def inOrder (state : State) : List Call → List Answer × State
  | [] => ([], state)
  | call :: rest =>
      ((method call state).1 :: (inOrder (method call state).2 rest).1,
        (inOrder (method call state).2 rest).2)

theorem inOrder_concat (state : State) (calls : List Call) (call : Call) :
    inOrder method state (calls ++ [call]) =
      ((inOrder method state calls).1 ++ [(method call (inOrder method state calls).2).1],
        (method call (inOrder method state calls).2).2) := by
  induction calls generalizing state with
  | nil => rfl
  | cons first rest ih => simp [inOrder, ih]

namespace CallLog

/-- The log is a serial order of its calls from the initial state. -/
def Serial (init : State) (logged : CallLog State Call Answer) : Prop :=
  inOrder method init (logged.log.map Prod.fst) = (logged.log.map Prod.snd, logged.state)

/-- A call takes effect. -/
def commit (logged : CallLog State Call Answer) (call : Call) : CallLog State Call Answer :=
  ⟨(method call logged.state).2, logged.log ++ [(call, (method call logged.state).1)]⟩

variable {method}

theorem serial_init (init : State) : Serial method init ⟨init, []⟩ := rfl

theorem Serial.commit {init : State} {logged : CallLog State Call Answer}
    (hserial : Serial method init logged) (call : Call) :
    Serial method init (logged.commit method call) := by
  have hbefore : inOrder method init (logged.log.map Prod.fst) =
      (logged.log.map Prod.snd, logged.state) := hserial
  unfold Serial CallLog.commit
  rw [List.map_append, List.map_append, List.map_singleton, List.map_singleton, inOrder_concat,
    hbefore]

end CallLog

/-! ## What the tasks have logged -/

section Tasks

variable {Task : Type} {tasks : List Task} {index : Nat} {task task' : Task}

/-- A turn that adds to what its task has ended. -/
theorem flatMap_set_perm {ended : Task → List Call} (htask : tasks[index]? = some task)
    {added : List Call} (hafter : ended task' = ended task ++ added) :
    ((tasks.set index task').flatMap ended).Perm (tasks.flatMap ended ++ added) := by
  induction tasks generalizing index with
  | nil => contradiction
  | cons first rest ih =>
      cases index with
      | zero =>
          obtain rfl := Option.some.inj htask
          rw [List.set_cons_zero, List.flatMap_cons, List.flatMap_cons, hafter, List.append_assoc,
            List.append_assoc]
          exact List.perm_append_comm.append_left _
      | succ index =>
          rw [List.set_cons_succ, List.flatMap_cons, List.flatMap_cons, List.append_assoc]
          exact (ih htask).append_left _

/-- A turn changes the total by what it changes for its task. -/
theorem sum_map_set {amount : Task → Int} (htask : tasks[index]? = some task) :
    ((tasks.set index task').map amount).sum =
      (tasks.map amount).sum + (amount task' - amount task) := by
  obtain ⟨hindex, hget⟩ := List.getElem?_eq_some_iff.mp htask
  rw [List.map_set, List.sum_set', dif_pos (by rwa [List.length_map]), List.getElem_map, hget]
  omega

end Tasks

/-! ## Conditions on the other tasks -/

/-- A turn keeps what holds of the shared state and of each task, if it does so
for the tasks in this pool. -/
theorem Pool.Holds.turn {Shared Task Start Input : Type}
    {start : Start → Shared → Shared × Option Task} {turn : Input → Shared → Task → Shared × Task}
    {invariant : Shared → Prop} {own : Shared → Task → Prop} {pool : Pool Shared Task}
    {index : Nat} {input : Input} {task : Task} (hholds : Pool.Holds invariant own pool)
    (htask : pool.tasks[index]? = some task)
    (hinvariant : invariant (turn input pool.shared task).1)
    (hown : own (turn input pool.shared task).1 (turn input pool.shared task).2)
    (hother : ∀ other ∈ pool.tasks, own pool.shared other →
      own (turn input pool.shared task).1 other) :
    Pool.Holds invariant own (pool.step start turn (.turn index input)) := by
  rw [Pool.step_turn _ _ htask]
  refine ⟨hinvariant, fun other hmem => ?_⟩
  rcases List.mem_or_eq_of_mem_set hmem with hold | rfl
  · exact hother other hold (hholds.2 other hold)
  · exact hown

end Foundation
