import Duvm.Kmod.Invariant

/-!
# Completions at full queue depth

The harvester decides from `comp_read_idx` and `comp_write_idx` alone whether a
completion is waiting. With as many tags as ring cells the daemon can publish a
whole lap of completions before the harvester takes one; the indices then meet
and the completions, though none is overwritten, can no longer be seen. The
daemon does not test for this as `duvm_ring_submit` does on the request ring,
and the runs in which the test would never fail are exactly the runs in which
every completion stays visible.
-/

namespace Duvm.Kmod

open Duvm.Daemon

universe u v

namespace World

variable {Env : Type u} {Engine : Type v}

/-- Completions which were published and not yet harvested. -/
def unharvested (world : World Engine) : ℕ := world.executed.length - world.consumed

/-- The indices show how many completions are waiting, each of them is in its cell, and the
ring looks empty only when there is none. -/
structure CompletionsVisible (world : World Engine) : Prop where
  counted : (world.unharvested : ℤ) =
    ((world.dev.ring.compWriteIdx : ℤ) - world.dev.ring.compReadIdx) % world.dev.ring.capacity
  kept : ∀ index execution, world.consumed ≤ index →
    world.executed[index]? = some execution →
    world.dev.ring.completions (index % world.dev.ring.capacity) = completionOf execution
  shown : world.dev.ring.compReadIdx = world.dev.ring.compWriteIdx → world.unharvested = 0

/-- The daemon consumes a request only while the completion ring has a cell to spare. -/
def RoomLeft (world : World Engine) (action : Action Env) : Prop :=
  ∀ env, action = .pollOnce env → world.dev.ring.reqReadIdx ≠ world.dev.ring.reqWriteIdx →
    RingBuffer.advance world.dev.ring.capacity world.dev.ring.compWriteIdx ≠
      world.dev.ring.compReadIdx

/-- Completions are visible as long as they fill less than a lap. -/
theorem Coherent.completionsVisible_iff {world : World Engine} (coherent : world.Coherent) :
    world.CompletionsVisible ↔
      world.executed.length < world.consumed + world.dev.ring.capacity := by
  have rings := coherent.rings
  have behind := rings.consumedLe
  have positive : 0 < world.dev.ring.capacity := by
    have free := rings.cellFree
    have within := rings.executedLe
    omega
  have distance := @RingBuffer.distance_mod world.dev.ring.capacity _ _ behind
  rw [← rings.compReadIdx, ← rings.compWriteIdx] at distance
  constructor
  · intro visible
    have counted := visible.counted
    rw [distance] at counted
    have bounded := Int.emod_lt_of_pos
      ((world.executed.length - world.consumed : ℕ) : ℤ) (Int.natCast_pos.mpr positive)
    rw [← counted, unharvested] at bounded
    omega
  · intro short
    refine { counted := ?_, kept := ?_, shown := ?_ }
    · rw [distance, unharvested, Int.emod_eq_of_lt (by omega) (by omega)]
    · intro index execution later listed
      apply rings.completions index _ later
      simp [listed]
    · intro meet
      rw [rings.compReadIdx, rings.compWriteIdx] at meet
      have same := RingBuffer.eq_of_mod_eq behind short meet
      rw [unharvested, same, Nat.sub_self]

/-- The test which the daemon leaves out, in terms of counts. -/
theorem Coherent.advance_ne_iff {world : World Engine} (coherent : world.Coherent)
    (short : world.executed.length < world.consumed + world.dev.ring.capacity) :
    RingBuffer.advance world.dev.ring.capacity world.dev.ring.compWriteIdx ≠
        world.dev.ring.compReadIdx ↔
      world.executed.length + 1 < world.consumed + world.dev.ring.capacity := by
  have close : (world.executed.map completionOf).length <
      world.consumed + world.dev.ring.capacity := by
    simpa using short
  simpa using coherent.rings.completionRing.advance_ne_iff close

/-- Publishing is the only action which brings the completions closer to a lap. -/
theorem Coherent.short_stepped {model : EngineModel Env Engine} {world next : World Engine}
    {action : Action Env} (coherent : world.Coherent)
    (short : world.executed.length < world.consumed + world.dev.ring.capacity)
    (room : world.RoomLeft action) (stepped : Stepped model world action next) :
    next.executed.length < next.consumed + next.dev.ring.capacity := by
  cases stepped with
  | served execution pending =>
      have spare := (coherent.advance_ne_iff short).mp (room _ rfl pending)
      have longer : (world.executed ++ [execution]).length = world.executed.length + 1 := by
        simp
      exact longer ▸ spare
  | skipped =>
      have later : world.consumed ≤ world.consumed + 1 := Nat.le_succ _
      exact short.trans_le (Nat.add_le_add_right later _)
  | answered =>
      have later : world.consumed ≤ world.consumed + 1 := Nat.le_succ _
      exact short.trans_le (Nat.add_le_add_right later _)
  | unchanged => exact short
  | refused => exact short
  | accepted => exact short
  | written => exact short
  | read => exact short
  | timedOut => exact short
  | opened => exact short
  | released => exact short

/-- Completions stay visible throughout a run exactly when the daemon never publishes into
the last free cell of the completion ring. -/
theorem completionsVisible_iff_roomLeft (model : EngineModel Env Engine) (ringEntries : ℕ)
    {dev : DuvmDevice} (initialised : duvmInit ringEntries = .ok dev) (engine : Engine)
    (actions : List (Action Env)) {final : World Engine}
    (ran : Transition.run (step model) (start dev engine) actions = some final) :
    Transition.Throughout (step model) CompletionsVisible (start dev engine) actions ↔
      Transition.Along (step model) RoomLeft (start dev engine) actions := by
  constructor
  · intro visible
    apply Transition.along_of_forall
    rintro before action after middle rfl reached env rfl pending
    rcases Transition.exists_step_of_run ran with ⟨middle', next, reached', stepped, led, _⟩
    have same : middle' = middle := Option.some.inj (reached'.symm.trans reached)
    subst same
    have coherent := coherent_of_run initialised reached
    have short := coherent.executed_lt pending
    apply (coherent.advance_ne_iff short).mpr
    have onward : before ++ [Action.pollOnce env] <+: before ++ Action.pollOnce env :: after :=
      ⟨after, by simp⟩
    have shown := visible _ next onward led
    have stillShort := (coherent_of_run initialised led).completionsVisible_iff.mp shown
    cases stepped_of_step stepped with
    | unchanged idle => exact absurd (idle env rfl) pending
    | served execution =>
        have longer : (middle'.executed ++ [execution]).length =
            middle'.executed.length + 1 := by simp
        exact longer ▸ stillShort
  · intro room
    have started : (start dev engine).Coherent := coherent_start initialised engine
    have holds : Transition.Throughout (step model)
        (fun world => world.Coherent ∧
          world.executed.length < world.consumed + world.dev.ring.capacity)
        (start dev engine) actions := by
      refine Transition.throughout_of_along ⟨started, started.rings.cellFree⟩ ?_ room
      rintro world action next ⟨coherent, short⟩ good stepped
      have taken := stepped_of_step stepped
      exact ⟨coherent.stepped taken, coherent.short_stepped short good taken⟩
    intro before reached isPrefix led
    rcases holds before reached isPrefix led with ⟨coherent, short⟩
    exact coherent.completionsVisible_iff.mpr short

/-- Two requests executed before the harvester takes a completion. -/
def lappingRun : List (Action Bool) :=
  [.ctlOpen true, .queueRq 0 (Request.ofPage 0 .read .zero) noMemory, .pollOnce true,
    .queueRq 1 (Request.ofPage 1 .read .zero) noMemory, .pollOnce true]

theorem completionsVisible_of_one_completion :
    ∃ dev final, duvmInit 2 = .ok dev ∧
      Transition.run (step plainModel) (start dev fun _ => none) (lappingRun.take 3) =
        some final ∧
      Transition.Throughout (step plainModel) CompletionsVisible (start dev fun _ => none)
        (lappingRun.take 3) := by
  refine ⟨_, _, rfl, rfl, ?_⟩
  refine (completionsVisible_iff_roomLeft plainModel 2 rfl _ _ rfl).mpr ?_
  refine ⟨nofun, fun opened ran => ?_⟩
  rcases Option.some.inj ran with rfl
  refine ⟨nofun, fun queued ran => ?_⟩
  rcases Option.some.inj ran with rfl
  refine ⟨fun _ _ _ => by decide, fun polled ran => trivial⟩

/-- With two ring entries, two completions are waiting and the ring looks empty. -/
theorem completions_hidden_at_full_depth :
    ∃ dev final, duvmInit 2 = .ok dev ∧
      Transition.run (step plainModel) (start dev fun _ => none) lappingRun = some final ∧
      final.unharvested = 2 ∧
      final.dev.ring.compReadIdx = final.dev.ring.compWriteIdx ∧ ¬ final.CompletionsVisible := by
  refine ⟨_, _, rfl, rfl, rfl, rfl, ?_⟩
  intro visible
  have none := visible.shown rfl
  exact absurd none (by decide)

end World

end Duvm.Kmod
