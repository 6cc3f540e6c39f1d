import Duvm.Library.Transition

/-!
# Progress by a measure

Some of the actions of a system are its own, the others come from outside. When
each of its own actions lowers a measure, the system comes to rest: what it does by
itself is bounded by the measure, in whatever order it is done, and it can always
be continued until none of its own actions is enabled.
-/

namespace Transition

universe u v

variable {State : Type u} {Action : Type v}

/-- None of the actions is enabled. -/
def Quiet (step : State → Action → Option State) (Own : Action → Prop) (state : State) : Prop :=
  ∀ action, Own action → step state action = none

/-- The measure falls with every one of the actions, where the invariant holds. -/
structure Descends (step : State → Action → Option State) (Own : Action → Prop)
    (Inv : State → Prop) (cost : State → ℕ) : Prop where
  keeps : ∀ {state action next}, Inv state → Own action → step state action = some next → Inv next
  falls : ∀ {state action next}, Inv state → Own action → step state action = some next →
    cost next < cost state

variable {step : State → Action → Option State} {Own : Action → Prop} {Inv : State → Prop}
  {cost : State → ℕ} {state final : State} {schedule : List Action}

/-- However the actions are scheduled, there are no more of them than the measure says. -/
theorem Descends.length_le (descends : Descends step Own Inv cost) (inv : Inv state)
    (own : ∀ action ∈ schedule, Own action) (ran : run step state schedule = some final) :
    schedule.length + cost final ≤ cost state := by
  induction schedule generalizing state with
  | nil =>
      rw [Option.some.inj ran]
      simp
  | cons action rest ih =>
      rw [run_cons, Option.bind_eq_some_iff] at ran
      rcases ran with ⟨next, stepped, ran⟩
      have isOwn := own action (List.mem_cons_self ..)
      have falls := descends.falls inv isOwn stepped
      have later := ih (descends.keeps inv isOwn stepped)
        (fun other listed => own other (List.mem_cons_of_mem _ listed)) ran
      simp only [List.length_cons]
      omega

/-- The system can always come to rest. -/
theorem Descends.exists_quiet (descends : Descends step Own Inv cost) (inv : Inv state) :
    ∃ schedule final, (∀ action ∈ schedule, Own action) ∧
      run step state schedule = some final ∧ Quiet step Own final := by
  -- by induction on the measure
  generalize isCost : cost state = count
  induction count using Nat.strong_induction_on generalizing state with
  | _ count ih =>
      by_cases quiet : Quiet step Own state
      · exact ⟨[], state, by simp, rfl, quiet⟩
      · simp only [Quiet, not_forall] at quiet
        rcases quiet with ⟨action, isOwn, enabled⟩
        rcases Option.ne_none_iff_exists'.mp enabled with ⟨next, stepped⟩
        have falls := descends.falls inv isOwn stepped
        rcases ih (cost next) (isCost ▸ falls) (descends.keeps inv isOwn stepped) rfl with
          ⟨rest, final, own, ran, quiet⟩
        refine ⟨action :: rest, final, ?_, ?_, quiet⟩
        · intro other listed
          rcases List.mem_cons.mp listed with rfl | later
          · exact isOwn
          · exact own other later
        · rw [run_cons, stepped]
          exact ran

end Transition
