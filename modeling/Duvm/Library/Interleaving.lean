import Duvm.Library.Transition

/-!
# Interleavings of independent actions

When actions which are enabled together can be taken in either order with the
same outcome, the order in which a system is scheduled does not matter: if one
schedule brings it to a state where nothing is enabled, every schedule can be
continued to that state, and all of them have the same length.
-/

namespace Transition

universe u v

variable {State : Type u} {Action : Type v}

/-- Actions enabled together commute. -/
def Independent (step : State → Action → Option State) : Prop :=
  ∀ state first second left right, first ≠ second →
    step state first = some left → step state second = some right →
    ∃ joined, step left second = some joined ∧ step right first = some joined

/-- Nothing is enabled. -/
def Stuck (step : State → Action → Option State) (state : State) : Prop :=
  ∀ action, step state action = none

/-- Some schedule leads from one state to the other. -/
def Reaches (step : State → Action → Option State) (state final : State) : Prop :=
  ∃ schedule, run step state schedule = some final

variable {step : State → Action → Option State} {state middle final : State}

theorem Reaches.refl (state : State) : Reaches step state state := ⟨[], rfl⟩

theorem Reaches.trans (earlier : Reaches step state middle) (later : Reaches step middle final) :
    Reaches step state final := by
  rcases earlier with ⟨first, ranFirst⟩
  rcases later with ⟨second, ranSecond⟩
  refine ⟨first ++ second, ?_⟩
  rw [run_append, ranFirst]
  exact ranSecond

/-- Taking another action first costs nothing. -/
theorem exists_run_after_step (independent : Independent step) (stuck : Stuck step final)
    {schedule : List Action} {action : Action} {next : State}
    (ran : run step state schedule = some final) (stepped : step state action = some next) :
    ∃ rest, run step next rest = some final ∧ rest.length + 1 = schedule.length := by
  induction schedule generalizing state next with
  | nil =>
      rw [← Option.some.inj ran] at stuck
      rw [stuck action] at stepped
      simp at stepped
  | cons first later ih =>
      rw [run_cons, Option.bind_eq_some_iff] at ran
      rcases ran with ⟨other, firstStepped, ran⟩
      by_cases same : first = action
      · subst same
        rw [firstStepped] at stepped
        rw [Option.some.inj stepped] at ran
        exact ⟨later, ran, rfl⟩
      · rcases independent state first action other next same firstStepped stepped with
          ⟨joined, afterFirst, afterAction⟩
        rcases ih ran afterFirst with ⟨rest, ranRest, counted⟩
        refine ⟨first :: rest, ?_, ?_⟩
        · rw [run_cons, afterAction]
          exact ranRest
        · simp only [List.length_cons]
          omega

/-- Every schedule ends where one of them does, and after as many steps. -/
theorem exists_completion (independent : Independent step) (stuck : Stuck step final)
    {schedule taken : List Action} {reached : State}
    (ran : run step state schedule = some final) (started : run step state taken = some reached) :
    ∃ rest, run step reached rest = some final ∧ taken.length + rest.length = schedule.length := by
  induction taken generalizing state schedule with
  | nil =>
      rw [← Option.some.inj started]
      exact ⟨schedule, ran, by simp⟩
  | cons action later ih =>
      rw [run_cons, Option.bind_eq_some_iff] at started
      rcases started with ⟨next, stepped, started⟩
      rcases exists_run_after_step independent stuck ran stepped with ⟨shorter, ranShorter, counted⟩
      rcases ih ranShorter started with ⟨rest, ranRest, total⟩
      refine ⟨rest, ranRest, ?_⟩
      simp only [List.length_cons]
      omega

end Transition
