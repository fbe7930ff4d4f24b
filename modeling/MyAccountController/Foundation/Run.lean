import Mathlib.Data.List.Induction
import Mathlib.Tactic.TypeStar

/-! # Runs of a labelled transition function

An event carries everything its step depends on, so a run is the fold of the
step over its events. A condition on steps is checked in the state in which
each event is taken, and an invariant is proved one step at a time.
-/

namespace Foundation

variable {State Event : Type*} (step : State → Event → State)

/-- The state reached after a sequence of events. -/
def run (state : State) (events : List Event) : State :=
  events.foldl step state

/-- Every event of the sequence meets the condition in the state it is taken in. -/
def Along (condition : State → Event → Prop) : State → List Event → Prop
  | _, [] => True
  | state, event :: rest =>
      condition state event ∧ Along condition (step state event) rest

instance Along.decidable (condition : State → Event → Prop)
    [∀ state event, Decidable (condition state event)] :
    ∀ state events, Decidable (Along step condition state events)
  | _, [] => isTrue trivial
  | state, event :: rest =>
      have := Along.decidable condition (step state event) rest
      inferInstanceAs (Decidable (condition state event ∧ _))

@[simp] theorem run_nil (state : State) : run step state [] = state := rfl

@[simp] theorem run_cons (state : State) (event : Event) (rest : List Event) :
    run step state (event :: rest) = run step (step state event) rest := rfl

theorem run_append (state : State) (first second : List Event) :
    run step state (first ++ second) = run step (run step state first) second :=
  List.foldl_append

theorem run_concat (state : State) (events : List Event) (event : Event) :
    run step state (events ++ [event]) = step (run step state events) event := by
  rw [run_append, run_cons, run_nil]

/-- An event of a history extended by one is the last one or an event of the
history. -/
theorem concat_eq_append_cons {history before after : List Event} {last event : Event}
    (hsplit : history ++ [last] = before ++ event :: after) :
    (after = [] ∧ history = before ∧ last = event) ∨
      ∃ earlier, after = earlier ++ [last] ∧ history = before ++ event :: earlier := by
  rcases List.eq_nil_or_concat after with rfl | ⟨earlier, final, rfl⟩
  · obtain ⟨hbefore, hlast⟩ := List.append_inj' hsplit rfl
    exact .inl ⟨rfl, hbefore, List.singleton_inj.mp hlast⟩
  · rw [List.concat_eq_append] at hsplit ⊢
    rw [← List.cons_append, ← List.append_assoc] at hsplit
    obtain ⟨hbefore, hlast⟩ := List.append_inj' hsplit rfl
    obtain rfl := List.singleton_inj.mp hlast
    exact .inr ⟨earlier, rfl, hbefore⟩

variable {step} {condition : State → Event → Prop}

theorem along_append {state : State} {first second : List Event} :
    Along step condition state (first ++ second) ↔
      Along step condition state first ∧
        Along step condition (run step state first) second := by
  induction first generalizing state with
  | nil => simp [Along]
  | cons event rest ih => simp [Along, ih, and_assoc]

theorem along_concat {state : State} {events : List Event} {event : Event} :
    Along step condition state (events ++ [event]) ↔
      Along step condition state events ∧ condition (run step state events) event := by
  simp [along_append, Along]

/-- A condition on the events alone joins a step condition. -/
theorem along_and_forall {good : Event → Prop} {state : State} {events : List Event}
    (hgood : ∀ event ∈ events, good event) (halong : Along step condition state events) :
    Along step (fun state event => good event ∧ condition state event) state events := by
  induction events generalizing state with
  | nil => trivial
  | cons event rest ih =>
      refine ⟨⟨hgood event List.mem_cons_self, halong.1⟩, ?_⟩
      exact ih (fun other hother => hgood other (List.mem_cons_of_mem _ hother)) halong.2

/-- A state predicate preserved by every step that meets the condition holds
at the end of every run whose steps all meet it. -/
theorem run_invariant {invariant : State → Prop}
    (hstep : ∀ state event, invariant state → condition state event →
      invariant (step state event))
    {state : State} {events : List Event} (hinit : invariant state)
    (halong : Along step condition state events) :
    invariant (run step state events) := by
  induction events generalizing state with
  | nil => exact hinit
  | cons event rest ih => exact ih (hstep state event hinit halong.1) halong.2

/-- The same rule for a predicate that also reads the events taken so far. -/
theorem run_history_invariant {invariant : List Event → State → Prop} {init : State}
    (hstep : ∀ events event, invariant events (run step init events) →
      condition (run step init events) event →
      invariant (events ++ [event]) (step (run step init events) event))
    (hinit : invariant [] init) {events : List Event}
    (halong : Along step condition init events) :
    invariant events (run step init events) := by
  induction events using List.reverseRecOn with
  | nil => exact hinit
  | append_singleton events event ih =>
      obtain ⟨hbefore, hlast⟩ := along_concat.mp halong
      rw [run_concat]
      exact hstep events event (ih hbefore) hlast

/-- What holds at the end of a run and did not hold at its start was brought
about by one of its events. -/
theorem exists_event_of_run (holds : State → Prop) (brings : State → Event → Prop) {init : State}
    (hinit : ¬ holds init)
    (hstep : ∀ events event, holds (step (run step init events) event) →
      holds (run step init events) ∨ brings (run step init events) event)
    {events : List Event} (hholds : holds (run step init events)) :
    ∃ before event after, events = before ++ event :: after ∧
      brings (run step init before) event := by
  induction events using List.reverseRecOn with
  | nil => exact absurd hholds hinit
  | append_singleton events event ih =>
      rw [run_concat] at hholds
      rcases hstep events event hholds with hearlier | hbrings
      · obtain ⟨before, other, after, hsplit, hbrings⟩ := ih hearlier
        refine ⟨before, other, after ++ [event], ?_, hbrings⟩
        rw [hsplit, List.append_assoc, List.cons_append]
      · exact ⟨events, event, [], rfl, hbrings⟩

/-! ## What the last event of a kind has left -/

variable (step)

/-- One of the events of the history brought something about, and every later one kept it. -/
def Since (init : State) (brings : List Event → Event → Prop) (keeps : State → Event → Prop)
    (events : List Event) : Prop :=
  ∃ before event after, events = before ++ event :: after ∧ brings before event ∧
    Along step keeps (run step init (before ++ [event])) after

variable {step} {init : State} {brings : List Event → Event → Prop}
  {keeps : State → Event → Prop} {events : List Event} {event : Event}

theorem Since.last (hbrings : brings events event) :
    Since step init brings keeps (events ++ [event]) :=
  ⟨events, event, [], rfl, hbrings, trivial⟩

theorem Since.concat (hsince : Since step init brings keeps events)
    (hkeeps : keeps (run step init events) event) :
    Since step init brings keeps (events ++ [event]) := by
  obtain ⟨before, first, after, rfl, hbrings, halong⟩ := hsince
  refine ⟨before, first, after ++ [event], by simp, hbrings, along_concat.mpr ⟨halong, ?_⟩⟩
  rwa [← run_append, List.append_assoc, List.singleton_append]

/-- What holds at the end of a run and did not hold at its start was brought about by one of its
events, and every later event kept it. -/
theorem since_of_run (holds : State → Prop) (hinit : ¬ holds init)
    (hstep : ∀ before event, before ++ [event] <+: events →
      holds (step (run step init before) event) → brings before event ∨
        holds (run step init before) ∧ keeps (run step init before) event)
    (hholds : holds (run step init events)) : Since step init brings keeps events := by
  induction events using List.reverseRecOn with
  | nil => exact absurd hholds hinit
  | append_singleton events event ih =>
      rw [run_concat] at hholds
      rcases hstep events event (List.prefix_refl _) hholds with hbrings | ⟨hearlier, hkeeps⟩
      · exact Since.last hbrings
      · exact (ih (fun before other hbefore => hstep before other
          (hbefore.trans (List.prefix_append _ _))) hearlier).concat hkeeps

end Foundation
