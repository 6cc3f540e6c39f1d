import Duvm.Kmod.Invariant

/-!
# Ownership of the staging slots

A slot belongs to the request for which it was allocated, from the allocation
until the harvester ends the request. The timeout handler gives the slot away
early: it clears the bit although the request stays started and its entry stays
in the ring, so the next request may be given the same slot and the harvester
frees it once more. Without timeouts ownership is exclusive in every reachable
state, and a run which brings every request to its end keeps it only without
timeouts.
-/

namespace Duvm.Kmod

open Function (update)
open Duvm.Daemon

universe u v

/-- The slots of the requests in flight are marked, in range and distinct. -/
structure SlotsAgree (stagingPages : ℕ) (bitmap : ℕ → Bool) (live : List Submission) : Prop where
  inside : ∀ submission ∈ live, submission.slot < stagingPages
  marked : ∀ submission ∈ live, bitmap submission.slot = true
  distinct : (live.map Submission.slot).Nodup

namespace SlotsAgree

variable {stagingPages : ℕ} {bitmap : ℕ → Bool} {live : List Submission}

variable {submission : Submission}

theorem slot_ne (agree : SlotsAgree stagingPages bitmap live) {slot : ℕ}
    (free : bitmap slot = false) (inFlight : submission ∈ live) :
    submission.slot ≠ slot := by
  rintro rfl
  rw [agree.marked submission inFlight] at free
  simp at free

theorem submit (agree : SlotsAgree stagingPages bitmap live)
    (inside : submission.slot < stagingPages) (free : bitmap submission.slot = false) :
    SlotsAgree stagingPages (update bitmap submission.slot true) (live ++ [submission]) := by
  refine { inside := ?_, marked := ?_, distinct := ?_ }
  · intro other inFlight
    rcases List.mem_append.mp inFlight with old | new
    · exact agree.inside other old
    · rw [List.mem_singleton.mp new]
      exact inside
  · intro other inFlight
    rcases List.mem_append.mp inFlight with old | new
    · rw [Function.update_of_ne (agree.slot_ne free old)]
      exact agree.marked other old
    · rw [List.mem_singleton.mp new, Function.update_self]
  · rw [List.map_append, List.nodup_append]
    refine ⟨agree.distinct, List.nodup_singleton _, ?_⟩
    intro left oldSlot right newSlot same
    rcases List.mem_map.mp oldSlot with ⟨other, inFlight, rfl⟩
    simp only [List.map_cons, List.map_nil, List.mem_singleton] at newSlot
    exact agree.slot_ne free inFlight (same.trans newSlot)

theorem answer {rest : List Submission}
    (agree : SlotsAgree stagingPages bitmap (submission :: rest)) :
    SlotsAgree stagingPages (update bitmap submission.slot false) rest := by
  have distinct := agree.distinct
  rw [List.map_cons, List.nodup_cons] at distinct
  refine { inside := ?_, marked := ?_, distinct := distinct.2 }
  · intro other inFlight
    exact agree.inside other (List.mem_cons_of_mem _ inFlight)
  · intro other inFlight
    have different : other.slot ≠ submission.slot := by
      intro same
      exact distinct.1 (List.mem_map.mpr ⟨other, inFlight, same⟩)
    rw [Function.update_of_ne different]
    exact agree.marked other (List.mem_cons_of_mem _ inFlight)

end SlotsAgree

/-- Each request in flight holds an allocation of its own which has not been released. -/
structure HoldersAgree (allocations : ℕ) (holder : ℕ → ℕ) (released : List ℕ)
    (live : List Submission) : Prop where
  held : ∀ submission ∈ live, holder submission.tag < allocations
  past : ∀ allocation ∈ released, allocation < allocations
  kept : ∀ submission ∈ live, holder submission.tag ∉ released
  distinct : (live.map fun submission => holder submission.tag).Nodup
  once : released.Nodup

namespace HoldersAgree

variable {allocations : ℕ} {holder : ℕ → ℕ} {released : List ℕ} {live : List Submission}

/-- An allocation which is given back at once. -/
theorem refuse (agree : HoldersAgree allocations holder released live) :
    HoldersAgree (allocations + 1) holder (released ++ [allocations]) live where
  held := fun submission inFlight => Nat.lt_succ_of_lt (agree.held submission inFlight)
  past := by
    intro allocation listed
    rcases List.mem_append.mp listed with old | new
    · exact Nat.lt_succ_of_lt (agree.past allocation old)
    · rw [List.mem_singleton.mp new]
      exact Nat.lt_succ_self _
  kept := by
    intro submission inFlight listed
    rcases List.mem_append.mp listed with old | new
    · exact agree.kept submission inFlight old
    · exact (agree.held submission inFlight).ne (List.mem_singleton.mp new)
  distinct := agree.distinct
  once := by
    rw [List.nodup_append]
    refine ⟨agree.once, List.nodup_singleton _, ?_⟩
    intro left old right new
    rw [List.mem_singleton.mp new]
    exact (agree.past left old).ne

theorem submit (agree : HoldersAgree allocations holder released live)
    {submission : Submission} (fresh : ∀ other ∈ live, other.tag ≠ submission.tag) :
    HoldersAgree (allocations + 1) (update holder submission.tag allocations) released
      (live ++ [submission]) := by
  have old_holder : ∀ other ∈ live,
      update holder submission.tag allocations other.tag = holder other.tag :=
    fun other inFlight => Function.update_of_ne (fresh other inFlight) _ _
  refine { held := ?_, past := ?_, kept := ?_, distinct := ?_, once := agree.once }
  · intro other inFlight
    rcases List.mem_append.mp inFlight with old | new
    · rw [old_holder other old]
      exact Nat.lt_succ_of_lt (agree.held other old)
    · rw [List.mem_singleton.mp new, Function.update_self]
      exact Nat.lt_succ_self _
  · intro allocation listed
    exact Nat.lt_succ_of_lt (agree.past allocation listed)
  · intro other inFlight
    rcases List.mem_append.mp inFlight with old | new
    · rw [old_holder other old]
      exact agree.kept other old
    · rw [List.mem_singleton.mp new, Function.update_self]
      intro listed
      exact (agree.past allocations listed).ne rfl
  · rw [List.map_append, List.nodup_append, List.map_congr_left old_holder]
    refine ⟨agree.distinct, List.nodup_singleton _, ?_⟩
    intro left listed right new
    rcases List.mem_map.mp listed with ⟨other, inFlight, rfl⟩
    simp only [List.map_cons, Function.update_self, List.map_nil, List.mem_singleton] at new
    rw [new]
    exact (agree.held other inFlight).ne

theorem answer {submission : Submission} {rest : List Submission}
    (agree : HoldersAgree allocations holder released (submission :: rest)) :
    HoldersAgree allocations holder (released ++ [holder submission.tag]) rest := by
  have distinct := agree.distinct
  rw [List.map_cons, List.nodup_cons] at distinct
  have kept := agree.kept submission List.mem_cons_self
  refine { held := ?_, past := ?_, kept := ?_, distinct := distinct.2, once := ?_ }
  · intro other inFlight
    exact agree.held other (List.mem_cons_of_mem _ inFlight)
  · intro allocation listed
    rcases List.mem_append.mp listed with old | new
    · exact agree.past allocation old
    · rw [List.mem_singleton.mp new]
      exact agree.held submission List.mem_cons_self
  · intro other inFlight listed
    rcases List.mem_append.mp listed with old | new
    · exact agree.kept other (List.mem_cons_of_mem _ inFlight) old
    · exact distinct.1 (List.mem_map.mpr ⟨other, inFlight, List.mem_singleton.mp new⟩)
  · rw [List.nodup_append]
    refine ⟨agree.once, List.nodup_singleton _, ?_⟩
    rintro left old right new rfl
    exact kept (List.mem_singleton.mp new ▸ old)

end HoldersAgree

namespace World

variable {Env : Type u} {Engine : Type v}

/-- Slots and allocations are owned by the requests in flight. -/
structure Owned (world : World Engine) : Prop where
  coherent : world.Coherent
  slots : SlotsAgree world.dev.ring.stagingPages world.dev.ring.stagingBitmap world.live
  holders : HoldersAgree world.allocations world.holder world.released world.live

theorem owned_start {ringEntries : ℕ} {dev : DuvmDevice}
    (initialised : duvmInit ringEntries = .ok dev) (engine : Engine) :
    (start dev engine).Owned where
  coherent := coherent_start initialised engine
  slots := { inside := nofun, marked := nofun, distinct := List.nodup_nil }
  holders :=
    { held := nofun, past := nofun, kept := nofun, distinct := List.nodup_nil,
      once := List.nodup_nil }

/-- Ownership survives every action but a timeout. -/
theorem Owned.stepped {model : EngineModel Env Engine} {world next : World Engine}
    {action : Action Env} (owned : world.Owned) (noTimeout : ∀ tag, action ≠ .timeout tag)
    (stepped : Stepped model world action next) : next.Owned := by
  have coherent := owned.coherent.stepped stepped
  have slots := owned.slots
  have holders := owned.holders
  cases stepped with
  | unchanged => exact owned
  | refused => exact ⟨coherent, slots, holders.refuse⟩
  | accepted submission _ _ notStarted inside free =>
      have behind := owned.coherent.rings.consumedLe.trans owned.coherent.rings.executedLe
      have live_eq : (world.accepted submission).live = world.live ++ [submission] :=
        List.drop_append_of_le_length behind
      refine ⟨coherent, ?_, ?_⟩
      · rw [live_eq]
        exact slots.submit inside free
      · rw [live_eq]
        apply holders.submit
        intro other inFlight same
        exact notStarted (same ▸ owned.coherent.tags.state_eq_started inFlight)
  | written => exact ⟨coherent, slots, holders⟩
  | read => exact ⟨coherent, slots, holders⟩
  | served => exact ⟨coherent, slots, holders⟩
  | skipped pending unknown => exact (owned.coherent.not_skipped pending unknown).elim
  | answered pending seq listed =>
      rcases owned.coherent.answered_oldest pending seq listed with
        ⟨submission, _, _, _, _, oldest, rfl, _, cmd, _⟩
      rw [oldest] at slots holders
      rw [cmd] at coherent ⊢
      exact ⟨coherent, slots.answer, holders.answer⟩
  | timedOut => exact absurd rfl (noTimeout _)
  | opened => exact ⟨coherent, slots, holders⟩
  | released => exact ⟨coherent, slots, holders⟩

/-- No two started requests hold one slot, the slots of the requests which the daemon has
still to execute are marked, and no allocation is released twice. -/
structure SlotsOwned (world : World Engine) : Prop where
  exclusive : ∀ first second, (world.dev.tags first).state = .started →
    (world.dev.tags second).state = .started →
    (world.dev.tags first).cmd.stagingSlot = (world.dev.tags second).cmd.stagingSlot →
    first = second
  marked : ∀ submission ∈ world.submitted.drop world.executed.length,
    world.dev.ring.stagingBitmap submission.slot = true
  releasedOnce : world.released.Nodup

theorem Owned.slotsOwned {world : World Engine} (owned : world.Owned) : world.SlotsOwned := by
  have tags := owned.coherent.tags
  refine { exclusive := ?_, marked := ?_, releasedOnce := owned.holders.once }
  · intro first second firstStarted secondStarted sameSlot
    rcases tags.started first firstStarted with ⟨left, leftLive, rfl⟩
    rcases tags.started second secondStarted with ⟨right, rightLive, rfl⟩
    rw [tags.entries left leftLive, tags.entries right rightLive] at sameSlot
    have same := List.inj_on_of_nodup_map owned.slots.distinct leftLive rightLive sameSlot
    rw [same]
  · intro submission waiting
    apply owned.slots.marked submission
    have split : world.submitted.drop world.executed.length =
        world.live.drop (world.executed.length - world.consumed) := by
      have behind := owned.coherent.rings.consumedLe
      rw [live, List.drop_drop, Nat.add_sub_cancel' behind]
    rw [split] at waiting
    exact List.mem_of_mem_drop waiting

/-- An allocation has been released twice, or it will be when its request ends. -/
def OverReleased (world : World Engine) : Prop :=
  ¬ world.released.Nodup ∨
    ∃ tag, (world.dev.tags tag).state = .started ∧ world.holder tag ∈ world.released

theorem OverReleased.stepped {model : EngineModel Env Engine} {world next : World Engine}
    {action : Action Env} (doubled : world.OverReleased)
    (stepped : Stepped model world action next) : next.OverReleased := by
  have grown : ∀ more : List ℕ, ¬ world.released.Nodup → ¬ (world.released ++ more).Nodup :=
    fun more repeated nodup => repeated nodup.of_append_left
  have elsewhere : ∀ {tag other : ℕ} {entry : TagEntry},
      (world.dev.tags other).state ≠ .started → (world.dev.tags tag).state = .started →
        (update world.dev.tags other entry tag).state = .started := by
    intro tag other entry notStarted started
    rw [Function.update_of_ne (by rintro rfl; exact notStarted started)]
    exact started
  rcases doubled with repeated | ⟨tag, started, twice⟩
  · cases stepped with
    | refused => exact Or.inl (grown _ repeated)
    | answered => exact Or.inl (grown _ repeated)
    | timedOut => exact Or.inl (grown _ repeated)
    | unchanged => exact Or.inl repeated
    | accepted => exact Or.inl repeated
    | written => exact Or.inl repeated
    | read => exact Or.inl repeated
    | served => exact Or.inl repeated
    | skipped => exact Or.inl repeated
    | opened => exact Or.inl repeated
    | released => exact Or.inl repeated
  · cases stepped with
    | refused notStarted =>
        exact Or.inr ⟨tag, elsewhere notStarted started, List.mem_append_left _ twice⟩
    | accepted submission _ _ notStarted =>
        have other : tag ≠ submission.tag := by
          rintro rfl
          exact notStarted started
        refine Or.inr ⟨tag, elsewhere notStarted started, ?_⟩
        simpa [accepted, Function.update_of_ne other] using twice
    | written _ notStarted => exact Or.inr ⟨tag, elsewhere notStarted started, twice⟩
    | read _ notStarted => exact Or.inr ⟨tag, elsewhere notStarted started, twice⟩
    | @answered ended _ =>
        by_cases same : tag = ended
        · subst same
          left
          intro nodup
          exact (List.disjoint_of_nodup_append nodup) twice (List.mem_singleton_self _)
        · refine Or.inr ⟨tag, ?_, List.mem_append_left _ twice⟩
          simpa [answered, blkMqEndRequest, Function.update_of_ne same] using started
    | timedOut => exact Or.inr ⟨tag, started, List.mem_append_left _ twice⟩
    | unchanged => exact Or.inr ⟨tag, started, twice⟩
    | served => exact Or.inr ⟨tag, started, twice⟩
    | skipped => exact Or.inr ⟨tag, started, twice⟩
    | opened => exact Or.inr ⟨tag, started, twice⟩
    | released => exact Or.inr ⟨tag, started, twice⟩

/-- Slots are owned throughout every run without timeouts; a run at whose end no request is
in flight owns its slots throughout only if no timeout fired. -/
theorem slotsOwned_of_noTimeout (model : EngineModel Env Engine) (ringEntries : ℕ)
    {dev : DuvmDevice} (initialised : duvmInit ringEntries = .ok dev) (engine : Engine)
    (actions : List (Action Env)) {final : World Engine}
    (ran : Transition.run (step model) (start dev engine) actions = some final) :
    ((∀ tag, .timeout tag ∉ actions) →
      Transition.Throughout (step model) SlotsOwned (start dev engine) actions) ∧
    ((∀ tag, (final.dev.tags tag).state ≠ .started) →
      Transition.Throughout (step model) SlotsOwned (start dev engine) actions →
      ∀ tag, .timeout tag ∉ actions) := by
  constructor
  · intro noTimeout
    have along : Transition.Along (step model) (fun _ action => ∀ tag, action ≠ .timeout tag)
        (start dev engine) actions := by
      apply Transition.along_of_forall
      rintro before action after middle rfl _ tag rfl
      exact noTimeout tag (by simp)
    have owned : Transition.Throughout (step model) Owned (start dev engine) actions := by
      refine Transition.throughout_of_along (owned_start initialised engine) ?_ along
      intro world action next owned quiet stepped
      exact owned.stepped quiet (stepped_of_step stepped)
    intro before reached isPrefix led
    exact (owned before reached isPrefix led).slotsOwned
  · intro quiescent throughout tag fired
    rcases List.append_of_mem fired with ⟨before, after, rfl⟩
    rcases Transition.exists_step_of_run ran with ⟨middle, next, _, stepped, _, rest⟩
    have doubled : next.OverReleased := by
      cases stepped_of_step stepped with
      | unchanged _ noTimeout => exact absurd rfl (noTimeout tag)
      | timedOut started =>
          exact Or.inr ⟨tag, started, List.mem_append_right _ (List.mem_singleton_self _)⟩
    have finallyDoubled : final.OverReleased := by
      refine Transition.run_invariant doubled ?_ rest
      intro world action after doubled stepped
      exact doubled.stepped (stepped_of_step stepped)
    rcases finallyDoubled with repeated | ⟨other, started, _⟩
    · exact repeated (throughout.at_end ran).releasedOnce
    · exact quiescent other started

/-- Two requests are in flight, and the slot of the first one is used again. -/
def overlappingRun : List (Action Bool) :=
  [.ctlOpen true, .queueRq 0 (Request.ofPage 0 .write .zero) noMemory,
    .queueRq 1 (Request.ofPage 1 .read .zero) noMemory, .pollOnce true, .harvest,
    .queueRq 2 (Request.ofPage 0 .read .zero) noMemory, .pollOnce true, .pollOnce true, .harvest,
    .harvest]

theorem slotsOwned_of_overlapping_requests :
    ∃ dev final, duvmInit 4 = .ok dev ∧
      Transition.run (step plainModel) (start dev fun _ => none) overlappingRun = some final ∧
      final.released = [0, 1, 2] ∧
      Transition.Throughout (step plainModel) SlotsOwned (start dev fun _ => none)
        overlappingRun := by
  refine ⟨_, _, rfl, rfl, rfl, (slotsOwned_of_noTimeout plainModel 4 rfl _ _ rfl).1 ?_⟩
  simp [overlappingRun]

/-- A request which times out, and another one issued before its completion is harvested. -/
def timeoutRun : List (Action Bool) :=
  [.ctlOpen true, .queueRq 0 (Request.ofPage 0 .read .zero) noMemory, .timeout 0,
    .queueRq 1 (Request.ofPage 1 .read .zero) noMemory, .pollOnce true, .harvest]

/-- Two started requests share slot 0; then the late completion of the first one frees the
slot a second time, while the daemon has still to execute the second one. -/
theorem slot_shared_after_timeout :
    ∃ dev shared final, duvmInit 4 = .ok dev ∧
      Transition.run (step plainModel) (start dev fun _ => none) (timeoutRun.take 4) =
        some shared ∧
      (shared.dev.tags 0).state = .started ∧ (shared.dev.tags 1).state = .started ∧
      (shared.dev.tags 0).cmd.stagingSlot = (shared.dev.tags 1).cmd.stagingSlot ∧
      ¬ shared.SlotsOwned ∧
      Transition.run (step plainModel) (start dev fun _ => none) timeoutRun = some final ∧
      (final.submitted.drop final.executed.length).map Submission.slot = [0] ∧
      final.dev.ring.stagingBitmap 0 = false ∧ final.released = [0, 0] ∧
      ¬ final.SlotsOwned := by
  refine ⟨_, _, _, rfl, rfl, rfl, rfl, rfl, ?_, rfl, rfl, rfl, rfl, ?_⟩
  · intro owned
    exact absurd (owned.exclusive 0 1 rfl rfl rfl) (by decide)
  · intro owned
    exact absurd owned.releasedOnce (by decide)

end World

end Duvm.Kmod
