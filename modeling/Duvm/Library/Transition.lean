import Mathlib.Data.List.Basic
import Mathlib.Data.List.Infix

/-!
# Runs of guarded transition functions

A system is given by a transition function which returns `none` when an action
is not enabled. This file executes lists of actions, names the two ways in
which the developments built on it speak about runs, and packages the
inductions once:

* `Along` says that every step of a run is taken under a side condition on the
  state before the step and on the action;
* `Throughout` says that a property holds in every state which the run visits.
-/

namespace Transition

universe u v

variable {State : Type u} {Action : Type v}

/-- Executes the actions from left to right; `none` when one is not enabled. -/
def run (step : State → Action → Option State) (state : State) :
    List Action → Option State
  | [] => some state
  | action :: rest => (step state action).bind fun next => run step next rest

/-- Every step of the run is taken from a state and by an action meeting `Good`. -/
def Along (step : State → Action → Option State) (Good : State → Action → Prop)
    (state : State) : List Action → Prop
  | [] => True
  | action :: rest =>
      Good state action ∧
        ∀ next, step state action = some next → Along step Good next rest

/-- The property holds in every state visited by the run, both ends included. -/
def Throughout (step : State → Action → Option State) (Holds : State → Prop)
    (state : State) (actions : List Action) : Prop :=
  ∀ before reached, before <+: actions → run step state before = some reached → Holds reached

variable {step : State → Action → Option State} {Good : State → Action → Prop}
  {Holds : State → Prop} {state final : State} {actions : List Action}

@[simp]
theorem run_nil : run step state [] = some state := rfl

theorem run_cons (action : Action) (rest : List Action) :
    run step state (action :: rest) =
      (step state action).bind fun next => run step next rest := rfl

theorem run_cons_of_step {action : Action} {next : State} (rest : List Action)
    (stepped : step state action = some next) :
    run step state (action :: rest) = run step next rest := by
  rw [run_cons, stepped, Option.bind_some]

theorem run_append (first second : List Action) :
    run step state (first ++ second) =
      (run step state first).bind fun middle => run step middle second := by
  induction first generalizing state with
  | nil => simp
  | cons action rest ih =>
      simp only [List.cons_append, run_cons]
      cases step state action with
      | none => rfl
      | some next => simpa using ih

theorem run_concat (first : List Action) (action : Action) :
    run step state (first ++ [action]) =
      (run step state first).bind fun middle => step middle action := by
  rw [run_append]
  congr 1
  funext middle
  simp only [run_cons, run_nil, Option.bind_fun_some]

/-- A run passes through the step which follows any of its prefixes. -/
theorem exists_step_of_run {before after : List Action} {action : Action}
    (reached : run step state (before ++ action :: after) = some final) :
    ∃ middle next, run step state before = some middle ∧ step middle action = some next ∧
      run step state (before ++ [action]) = some next ∧ run step next after = some final := by
  rw [run_append, Option.bind_eq_some_iff] at reached
  rcases reached with ⟨middle, first, reached⟩
  rw [run_cons, Option.bind_eq_some_iff] at reached
  rcases reached with ⟨next, stepped, reached⟩
  refine ⟨middle, next, first, stepped, ?_, reached⟩
  rw [run_concat, first]
  exact stepped

/-- A property which holds initially and is preserved by every step taken under the
side condition holds at the end of every run taken under it. -/
theorem run_induction (start : Holds state)
    (preserved : ∀ current action next, Holds current → Good current action →
      step current action = some next → Holds next)
    (along : Along step Good state actions)
    (reached : run step state actions = some final) : Holds final := by
  induction actions generalizing state with
  | nil =>
      simp only [run_nil, Option.some.injEq] at reached
      exact reached ▸ start
  | cons action rest ih =>
      rcases along with ⟨good, tail⟩
      simp only [run_cons, Option.bind_eq_some_iff] at reached
      rcases reached with ⟨next, stepped, reached⟩
      exact ih (preserved state action next start good stepped) (tail next stepped) reached

theorem along_true : Along step (fun _ _ => True) state actions := by
  induction actions generalizing state with
  | nil => trivial
  | cons action rest ih => exact ⟨trivial, fun _ _ => ih⟩

/-- A property preserved by every step is an invariant of every run. -/
theorem run_invariant (start : Holds state)
    (preserved : ∀ current action next, Holds current →
      step current action = some next → Holds next)
    (reached : run step state actions = some final) : Holds final := by
  have along : Along step (fun _ _ => True) state actions := along_true
  refine run_induction start ?_ along reached
  intro current action next holds _ stepped
  exact preserved current action next holds stepped

/-- A side condition which can be decided can be decided along a run. -/
instance decidableAlong [∀ state action, Decidable (Good state action)] (state : State) :
    (actions : List Action) → Decidable (Along step Good state actions)
  | [] => isTrue trivial
  | action :: rest =>
      match stepped : step state action with
      | none => decidable_of_iff (Good state action) (by simp [Along, stepped])
      | some next =>
          have := decidableAlong next rest
          decidable_of_iff (Good state action ∧ Along step Good next rest)
            (by simp [Along, stepped])

theorem Along.append_left {first second : List Action}
    (along : Along step Good state (first ++ second)) : Along step Good state first := by
  induction first generalizing state with
  | nil => trivial
  | cons action rest ih =>
      exact ⟨along.1, fun next stepped => ih (along.2 next stepped)⟩

theorem along_of_forall
    (good : ∀ before action after middle, actions = before ++ action :: after →
      run step state before = some middle → Good middle action) :
    Along step Good state actions := by
  induction actions generalizing state with
  | nil => trivial
  | cons action rest ih =>
      refine ⟨good [] action rest state rfl rfl, fun next stepped => ih ?_⟩
      intro before later after middle split reached
      refine good (action :: before) later after middle (by simp [split]) ?_
      simpa [run_cons, stepped] using reached

/-- A flag which a step leaves up exactly when it meets the side condition is up at the end of
a run exactly when every step has met it. -/
theorem flag_iff_along {Flag : State → Prop} (start : Holds state)
    (preserved : ∀ current action next, Holds current →
      step current action = some next → Holds next)
    (flagged : ∀ current action next, Holds current → step current action = some next →
      (Flag next ↔ Flag current ∧ Good current action))
    (reached : run step state actions = some final) :
    Flag final ↔ Flag state ∧ Along step Good state actions := by
  induction actions generalizing state with
  | nil =>
      simp only [run_nil, Option.some.injEq] at reached
      simp [Along, reached]
  | cons action rest ih =>
      simp only [run_cons, Option.bind_eq_some_iff] at reached
      rcases reached with ⟨next, stepped, reached⟩
      have later := ih (preserved state action next start stepped) reached
      rw [later, flagged state action next start stepped, and_assoc]
      simp [Along, stepped]

theorem throughout_of_along (start : Holds state)
    (preserved : ∀ current action next, Holds current → Good current action →
      step current action = some next → Holds next)
    (along : Along step Good state actions) : Throughout step Holds state actions := by
  rintro before reached ⟨after, rfl⟩ ran
  exact run_induction start preserved along.append_left ran

theorem Throughout.at_start (throughout : Throughout step Holds state actions) : Holds state :=
  throughout [] state List.nil_prefix rfl

theorem throughout_nil : Throughout step Holds state [] ↔ Holds state := by
  constructor
  · intro throughout
    exact throughout.at_start
  · intro holds before reached early ran
    rw [List.prefix_nil.mp early, run_nil, Option.some.injEq] at ran
    exact ran ▸ holds

theorem throughout_cons {action : Action} {rest : List Action} :
    Throughout step Holds state (action :: rest) ↔
      Holds state ∧
        ∀ next, step state action = some next → Throughout step Holds next rest := by
  constructor
  · intro throughout
    refine ⟨throughout.at_start, ?_⟩
    intro next stepped before reached early ran
    refine throughout (action :: before) reached (List.prefix_cons_inj action |>.mpr early) ?_
    rw [run_cons_of_step before stepped]
    exact ran
  · rintro ⟨holds, later⟩ before reached early ran
    cases before with
    | nil =>
        rw [run_nil, Option.some.injEq] at ran
        exact ran ▸ holds
    | cons first others =>
        rcases List.cons_prefix_cons.mp early with ⟨rfl, within⟩
        rw [run_cons, Option.bind_eq_some_iff] at ran
        rcases ran with ⟨next, stepped, ran⟩
        exact later next stepped others reached within ran

theorem Throughout.at_end (throughout : Throughout step Holds state actions)
    (reached : run step state actions = some final) : Holds final :=
  throughout actions final (List.prefix_refl actions) reached

end Transition
