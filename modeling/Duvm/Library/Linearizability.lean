import Duvm.Library.Transition
import Mathlib.Logic.Function.Basic

/-!
# Linearizability

An object is called by several threads, which see of it their calls and what
these return. Such a history is linearizable if every call which returned can be
given a point between the two, and calls which did not return may be given one,
such that a sequential object would have given the same replies to the calls, made
one after the other at their points.

The sequential object is a relation between its state, a call with its reply, and
the state after it, so it may allow several replies.
-/

namespace Linearizability

open Function (update)

universe u v w x y

variable {Thread : Type u} {Call : Type v} {Reply : Type w} {State : Type x} {World : Type y}

/-- What a history consists of. -/
inductive Event (Thread : Type u) (Call : Type v) (Reply : Type w) where
  | called (thread : Thread) (call : Call)
  | returned (thread : Thread) (reply : Reply)
deriving DecidableEq

/-- What a history with the points in it consists of. -/
inductive Mark (Thread : Type u) (Call : Type v) (Reply : Type w) where
  | event (seen : Event Thread Call Reply)
  | point (thread : Thread) (call : Call) (reply : Reply)

/-- What a thread has done last. -/
inductive Phase (Call : Type v) (Reply : Type w) where
  | idle
  | pending (call : Call)
  | answered (reply : Reply)
deriving DecidableEq

def Mark.event? : Mark Thread Call Reply → Option (Event Thread Call Reply)
  | .event seen => some seen
  | .point _ _ _ => none

def Mark.point? : Mark Thread Call Reply → Option (Call × Reply)
  | .event _ => none
  | .point _ call reply => some (call, reply)

/-- The history, without the points. -/
def history (marks : List (Mark Thread Call Reply)) : List (Event Thread Call Reply) :=
  marks.filterMap Mark.event?

/-- The calls with their replies, in the order of their points. -/
def points (marks : List (Mark Thread Call Reply)) : List (Call × Reply) :=
  marks.filterMap Mark.point?

/-- The sequential object gives these replies to the calls, one after the other. -/
inductive Replies (spec : State → Call × Reply → State → Prop) (start : State) :
    List (Call × Reply) → State → Prop
  | nil : Replies spec start [] start
  | snoc {served : List (Call × Reply)} {state after : State} {next : Call × Reply}
      (earlier : Replies spec start served state) (serves : spec state next after) :
      Replies spec start (served ++ [next]) after

theorem Replies.append {spec : State → Call × Reply → State → Prop} {start middle final : State}
    {first second : List (Call × Reply)} (earlier : Replies spec start first middle)
    (later : Replies spec middle second final) : Replies spec start (first ++ second) final := by
  induction later with
  | nil =>
      rw [List.append_nil]
      exact earlier
  | snoc _ serves ih =>
      rw [← List.append_assoc]
      exact ih.snoc serves

section Place

variable [DecidableEq Thread] [DecidableEq Call] [DecidableEq Reply]

/-- A thread calls, then comes the point of the call, then it returns the reply given there. -/
def place (phases : Thread → Phase Call Reply) :
    Mark Thread Call Reply → Option (Thread → Phase Call Reply)
  | .event (.called thread call) =>
      if phases thread = .idle then some (update phases thread (.pending call)) else none
  | .point thread call reply =>
      if phases thread = .pending call then some (update phases thread (.answered reply)) else none
  | .event (.returned thread reply) =>
      if phases thread = .answered reply then some (update phases thread .idle) else none

/-- Points can be put into the history so that the sequential object gives the same replies. -/
def Linearizable (spec : State → Call × Reply → State → Prop) (start : State)
    (events : List (Event Thread Call Reply)) : Prop :=
  ∃ marks phases state, Transition.run place (fun _ => .idle) marks = some phases ∧
    history marks = events ∧ Replies spec start (points marks) state

section Rule

variable {Action : Type*} {step : World → Action → Option World}
  {log : World → List (Event Thread Call Reply)} {phases : World → Thread → Phase Call Reply}
  {spec : State → Call × Reply → State → Prop} {Abstracts : World → State → Prop}

/-- What a step does to the threads, to the object and to the history is done by marks. -/
def Marked (log : World → List (Event Thread Call Reply))
    (phases : World → Thread → Phase Call Reply) (spec : State → Call × Reply → State → Prop)
    (Abstracts : World → State → Prop) (world : World) (state : State) (next : World) : Prop :=
  ∃ marks after, Transition.run place (phases world) marks = some (phases next) ∧
    Replies spec state (points marks) after ∧
    log next = log world ++ history marks ∧ Abstracts next after

theorem linearizable_of_run {world final : World} {actions : List Action} {start : State}
    (idle : phases world = fun _ => .idle) (unlogged : log world = [])
    (abstracts : Abstracts world start)
    (marked : ∀ current state action next, Abstracts current state →
      step current action = some next → Marked log phases spec Abstracts current state next)
    (ran : Transition.run step world actions = some final) :
    Linearizable spec start (log final) ∧ ∃ state, Abstracts final state := by
  have placed : ∃ marks state, Transition.run place (fun _ => .idle) marks = some (phases final) ∧
      history marks = log final ∧ Replies spec start (points marks) state ∧
      Abstracts final state := by
    refine @Transition.run_invariant _ _ step (fun current => ∃ marks state,
      Transition.run place (fun _ => .idle) marks = some (phases current) ∧
      history marks = log current ∧ Replies spec start (points marks) state ∧
      Abstracts current state) _ _ _ ?_ ?_ ran
    · exact ⟨[], start, by rw [idle]; rfl, unlogged.symm, .nil, abstracts⟩
    · rintro current action next ⟨marks, state, placed, logged, served, holds⟩ stepped
      rcases marked current state action next holds stepped with
        ⟨more, after, goesOn, serves, added, stillHolds⟩
      refine ⟨marks ++ more, after, ?_, ?_, ?_, stillHolds⟩
      · rw [Transition.run_append, placed]
        exact goesOn
      · rw [history, List.filterMap_append, added, ← logged]
        rfl
      · rw [points, List.filterMap_append]
        exact served.append serves
  rcases placed with ⟨marks, state, placed, logged, served, holds⟩
  exact ⟨⟨marks, phases final, state, placed, logged, served⟩, state, holds⟩

variable {world next : World} {state after : State} {thread : Thread} {call : Call} {reply : Reply}

/-- A step which is nothing but a call. -/
theorem Marked.of_called (idle : phases world thread = .idle)
    (pending : phases next = update (phases world) thread (.pending call))
    (logged : log next = log world ++ [.called thread call]) (abstracts : Abstracts next state) :
    Marked log phases spec Abstracts world state next := by
  refine ⟨[.event (.called thread call)], state, ?_, .nil, logged, abstracts⟩
  simp [Transition.run_cons, place, idle, pending]

/-- A step which is nothing but a return. -/
theorem Marked.of_returned (answered : phases world thread = .answered reply)
    (idle : phases next = update (phases world) thread .idle)
    (logged : log next = log world ++ [.returned thread reply])
    (abstracts : Abstracts next state) : Marked log phases spec Abstracts world state next := by
  refine ⟨[.event (.returned thread reply)], state, ?_, .nil, logged, abstracts⟩
  simp [Transition.run_cons, place, answered, idle]

/-- A step at which a call takes effect. -/
theorem Marked.of_point (pending : phases world thread = .pending call)
    (answered : phases next = update (phases world) thread (.answered reply))
    (serves : spec state (call, reply) after) (unlogged : log next = log world)
    (abstracts : Abstracts next after) : Marked log phases spec Abstracts world state next := by
  refine ⟨[.point thread call reply], after, ?_, Replies.nil.snoc serves, ?_, abstracts⟩
  · simp [Transition.run_cons, place, pending, answered]
  · simp [history, Mark.event?, unlogged]

/-- A step at which nothing is seen from outside. -/
theorem Marked.of_silent (same : phases next = phases world) (unlogged : log next = log world)
    (abstracts : Abstracts next state) : Marked log phases spec Abstracts world state next :=
  ⟨[], state, by rw [same]; rfl, .nil, by rw [unlogged]; exact (List.append_nil _).symm, abstracts⟩

end Rule

end Place

end Linearizability
