import Duvm.Kmod.Exchange
import Mathlib.Data.List.Nodup

/-!
# Completions of any content

Of a completion the harvester checks that its sequence number is in range and
that a request has been issued under the tag; the block layer answers with the
last one, also when it has ended. A completion which comes twice, or late,
therefore ends a request a second time and frees a slot which belongs to another
one by then.

The harvester does no harm exactly as long as the completions which it takes name
requests in flight, or none. For this it is enough that the daemon answers
requests in flight only, each of them once.
-/

namespace Duvm.Kmod

open Function (update)
open Transition (Along run)

namespace Exchange

/-- Each request in flight has its slot and has not been ended, and the harvester has done no
harm. -/
structure Held (state : Exchange) : Prop where
  marked : ∀ slot, state.owner slot ≠ none → state.dev.ring.stagingBitmap slot = true
  owns : ∀ tag, (state.dev.tags tag).state = .started →
    state.owner (state.dev.tags tag).cmd.stagingSlot = some (state.current tag)
  notEnded : ∀ tag, (state.dev.tags tag).state = .started →
    state.current tag ∉ state.harvests.map Harvest.request
  past : ∀ harvest ∈ state.harvests, harvest.request.2 ≤ state.starts harvest.request.1
  tolerates : state.Tolerates

variable {dev : DuvmDevice} {state : Exchange} {entry : TagEntry} {tag : ℕ}
  {action : ExchangeAction}

theorem held_start {ringEntries : ℕ} (initialised : duvmInit ringEntries = .ok dev) :
    (start dev).Held := by
  rcases duvmInit_eq_ok initialised with ⟨-, rfl⟩
  exact ⟨nofun, nofun, nofun, nofun, nofun, List.nodup_nil, nofun⟩

variable {ring : DuvmRing} {next : Exchange}

/-- A change to what the invariant does not read. -/
theorem Held.setRing (held : state.Held)
    (same : ring.stagingBitmap = state.dev.ring.stagingBitmap) : (state.setRing ring).Held where
  marked slot isOwned := by
    change ring.stagingBitmap slot = true
    rw [same]
    exact held.marked slot isOwned
  owns := held.owns
  notEnded := held.notEnded
  past := held.past
  tolerates := ⟨held.tolerates.inFlight, held.tolerates.once, held.tolerates.owned⟩

/-- The numbers of the starts only grow. -/
theorem starts_le_begun (state : Exchange) (tag other : ℕ) (dev : DuvmDevice) :
    state.starts other ≤ (state.begun tag dev).starts other := by
  simp only [begun]
  by_cases same : other = tag
  · subst same
    rw [Function.update_self]
    exact Nat.le_succ _
  · rw [Function.update_of_ne same]

theorem current_begun_self (state : Exchange) (tag : ℕ) (dev : DuvmDevice) :
    (state.begun tag dev).current tag = (tag, state.starts tag + 1) := by
  simp only [current, begun, Function.update_self]

theorem current_begun_of_ne (state : Exchange) {other : ℕ} (dev : DuvmDevice)
    (different : other ≠ tag) : (state.begun tag dev).current other = state.current other := by
  simp only [current, begun, Function.update_of_ne different]

/-- A new start is none of those ended. -/
theorem Held.current_begun_notMem (held : state.Held) (tag : ℕ) (dev : DuvmDevice) :
    (state.begun tag dev).current tag ∉ state.harvests.map Harvest.request := by
  intro listed
  rcases List.mem_map.mp listed with ⟨harvest, isHarvest, same⟩
  have past := held.past harvest isHarvest
  rw [same, current_begun_self] at past
  exact Nat.not_succ_le_self _ past

/-- Once the request under a tag is settled, those in flight are among the others. -/
theorem others_of_settled {tags after : ℕ → TagEntry} (changed : after = update tags tag entry)
    (settles : entry.state ≠ .started) {other : ℕ} (started : (after other).state = .started) :
    other ≠ tag ∧ after other = tags other := by
  rw [changed] at started ⊢
  by_cases same : other = tag
  · subst same
    rw [Function.update_self] at started
    exact absurd started settles
  · exact ⟨same, Function.update_of_ne same _ _⟩

/-- A request which is started and settled at once leaves the others as they are. -/
theorem Held.settle (held : state.Held)
    (bitmap : dev.ring.stagingBitmap = state.dev.ring.stagingBitmap)
    (tags : dev.tags = update state.dev.tags tag entry) (settles : entry.state ≠ .started) :
    (state.begun tag dev).Held where
  marked slot isOwned := by
    change dev.ring.stagingBitmap slot = true
    rw [bitmap]
    exact held.marked slot isOwned
  owns other started := by
    change (dev.tags other).state = .started at started
    rcases others_of_settled tags settles started with ⟨different, same⟩
    rw [current_begun_of_ne state dev different]
    change state.owner (dev.tags other).cmd.stagingSlot = _
    rw [same] at started ⊢
    exact held.owns other started
  notEnded other started := by
    change (dev.tags other).state = .started at started
    rcases others_of_settled tags settles started with ⟨different, same⟩
    rw [current_begun_of_ne state dev different]
    rw [same] at started
    exact held.notEnded other started
  past harvest isHarvest := (held.past harvest isHarvest).trans (starts_le_begun state tag _ dev)
  tolerates := ⟨held.tolerates.inFlight, held.tolerates.once, held.tolerates.owned⟩

/-- A slot which is not marked has no owner. -/
theorem Held.owner_of_free (held : state.Held) {slot : ℕ}
    (free : state.dev.ring.stagingBitmap slot = false) : state.owner slot = none := by
  by_contra isOwned
  have marked := held.marked slot isOwned
  rw [free] at marked
  cases marked

/-- A request gets a slot which nobody has. -/
theorem Held.accept (held : state.Held) {slot : ℕ}
    (free : state.dev.ring.stagingBitmap slot = false)
    (bitmap : dev.ring.stagingBitmap = update state.dev.ring.stagingBitmap slot true)
    (tags : dev.tags = update state.dev.tags tag entry) (isSlot : entry.cmd.stagingSlot = slot) :
    (state.accepted tag slot dev).Held where
  marked other isOwned := by
    simp only [accepted, begun, bitmap] at isOwned ⊢
    by_cases same : other = slot
    · rw [same, Function.update_self]
    · rw [Function.update_of_ne same] at isOwned ⊢
      exact held.marked other isOwned
  owns other started := by
    change (dev.tags other).state = .started at started
    change update state.owner slot (some (tag, state.starts tag + 1))
      (dev.tags other).cmd.stagingSlot = some ((state.begun tag dev).current other)
    rw [tags] at started ⊢
    by_cases same : other = tag
    · subst same
      rw [Function.update_self, isSlot, Function.update_self, current_begun_self]
    · rw [Function.update_of_ne same] at started ⊢
      have owns := held.owns other started
      rw [Function.update_of_ne, owns, current_begun_of_ne state dev same]
      intro shared
      rw [shared, held.owner_of_free free] at owns
      cases owns
  notEnded other started := by
    change (dev.tags other).state = .started at started
    change (state.begun tag dev).current other ∉ state.harvests.map Harvest.request
    by_cases same : other = tag
    · subst same
      exact held.current_begun_notMem other dev
    · rw [tags, Function.update_of_ne same] at started
      rw [current_begun_of_ne state dev same]
      exact held.notEnded other started
  past harvest isHarvest := (held.past harvest isHarvest).trans (starts_le_begun state tag _ dev)
  tolerates := ⟨held.tolerates.inFlight, held.tolerates.once, held.tolerates.owned⟩

/-- The record of a request in flight which had its slot and had not been ended. -/
theorem Tolerates.ended (tolerates : state.Tolerates) (dev : DuvmDevice)
    (started : (state.dev.tags tag).state = .started)
    (owns : state.owner (state.dev.tags tag).cmd.stagingSlot = some (state.current tag))
    (notEnded : state.current tag ∉ state.harvests.map Harvest.request) :
    (state.ended tag dev).Tolerates where
  inFlight harvest isHarvest := by
    rcases List.mem_append.mp isHarvest with old | new
    · exact tolerates.inFlight harvest old
    · rw [List.mem_singleton.mp new]
      exact decide_eq_true started
  once := by
    simp only [Exchange.ended, List.map_append, List.map_cons, List.map_nil]
    rw [← List.concat_eq_append]
    exact tolerates.once.concat notEnded
  owned harvest isHarvest := by
    rcases List.mem_append.mp isHarvest with old | new
    · exact tolerates.owned harvest old
    · rw [List.mem_singleton.mp new]
      exact decide_eq_true owns

/-- A request in flight is ended and gives its own slot back. -/
theorem Held.ended (held : state.Held) (started : (state.dev.tags tag).state = .started)
    (bitmap : dev.ring.stagingBitmap = update state.dev.ring.stagingBitmap
      (state.dev.tags tag).cmd.stagingSlot false)
    (tags : dev.tags = update state.dev.tags tag entry) (settles : entry.state ≠ .started) :
    (state.ended tag dev).Held where
  marked slot isOwned := by
    simp only [Exchange.ended, bitmap] at isOwned ⊢
    by_cases same : slot = (state.dev.tags tag).cmd.stagingSlot
    · rw [same, Function.update_self] at isOwned
      exact absurd rfl isOwned
    · rw [Function.update_of_ne same] at isOwned ⊢
      exact held.marked slot isOwned
  owns other isStarted := by
    change (dev.tags other).state = .started at isStarted
    change update state.owner (state.dev.tags tag).cmd.stagingSlot none
      (dev.tags other).cmd.stagingSlot = some (state.current other)
    rcases others_of_settled tags settles isStarted with ⟨different, same⟩
    rw [same] at isStarted ⊢
    have owns := held.owns other isStarted
    rw [Function.update_of_ne, owns]
    -- a slot has one owner, which tells the tag
    intro shared
    rw [shared, held.owns tag started, Option.some.injEq] at owns
    exact different (congrArg Prod.fst owns).symm
  notEnded other isStarted listed := by
    change (dev.tags other).state = .started at isStarted
    rcases others_of_settled tags settles isStarted with ⟨different, same⟩
    rw [same] at isStarted
    simp only [Exchange.ended, List.map_append, List.map_cons, List.map_nil, List.mem_append,
      List.mem_singleton] at listed
    rcases listed with old | new
    · exact held.notEnded other isStarted old
    · exact different (congrArg Prod.fst new)
  past harvest isHarvest := by
    rcases List.mem_append.mp isHarvest with old | new
    · exact held.past harvest old
    · rw [List.mem_singleton.mp new]
      exact Nat.le_refl _
  tolerates :=
    held.tolerates.ended dev started (held.owns tag started) (held.notEnded tag started)

theorem Held.stepped (held : state.Held) (inFlight : state.NamesInFlight action)
    (stepped : Stepped state action next) :
    next.Held := by
  cases stepped with
  | unchanged => exact held
  | settled notStarted settles => exact held.settle rfl rfl settles
  | accepted notStarted free => exact held.accept free rfl rfl rfl
  | taken => exact held.setRing rfl
  | completed comp =>
      have kept := @Held.setRing state (state.completed comp).dev.ring held rfl
      exact ⟨kept.marked, kept.owns, kept.notEnded, kept.past, kept.tolerates.inFlight,
        kept.tolerates.once, kept.tolerates.owned⟩
  | skipped => exact held.setRing rfl
  | ended pending found listed =>
      exact held.ended (inFlight pending _ found listed) rfl rfl (by simp)
  | opened => exact held.setRing rfl
  | released => exact held.setRing rfl

/-- The tags which are named by the completions between the indices of the ring. -/
def named (state : Exchange) : List ℕ :=
  (RingBuffer.visible state.dev.ring.completions state.dev.ring.capacity
    state.dev.ring.compReadIdx state.dev.ring.compWriteIdx).filterMap fun comp =>
    tagOfSeq state.dev.queueDepth comp.seq

/-- The indices of the completion ring are in range. -/
structure Indexed (ring : DuvmRing) : Prop where
  powerOfTwo : ∃ order, ring.capacity = 2 ^ order
  readBelow : ring.compReadIdx < ring.capacity
  writeBelow : ring.compWriteIdx < ring.capacity

/-- The requests under the tags are in flight and have been answered, and no tag is there
twice. -/
structure Awaited (state : Exchange) (tags : List ℕ) : Prop where
  inFlight : ∀ tag ∈ tags, (state.dev.tags tag).state = .started
  answered : ∀ tag ∈ tags, state.current tag ∈ state.answers
  distinct : tags.Nodup

theorem Awaited.nil (state : Exchange) : state.Awaited [] := ⟨nofun, nofun, List.nodup_nil⟩

theorem Awaited.concat {tags : List ℕ} (awaited : state.Awaited tags)
    (started : (state.dev.tags tag).state = .started)
    (isAnswered : state.current tag ∈ state.answers) (absent : tag ∉ tags) :
    state.Awaited (tags ++ [tag]) where
  inFlight other listed := by
    rcases List.mem_append.mp listed with old | new
    · exact awaited.inFlight other old
    · rw [List.mem_singleton.mp new]
      exact started
  answered other listed := by
    rcases List.mem_append.mp listed with old | new
    · exact awaited.answered other old
    · rw [List.mem_singleton.mp new]
      exact isAnswered
  distinct := by
    rw [← List.concat_eq_append]
    exact awaited.distinct.concat absent

/-- The tags stay what they are when the requests under them do. -/
theorem Awaited.kept {tags others : List ℕ} (awaited : state.Awaited tags)
    (distinct : others.Nodup) (within : ∀ tag ∈ others, tag ∈ tags)
    (inFlight : ∀ tag ∈ others, (next.dev.tags tag).state = (state.dev.tags tag).state)
    (current : ∀ tag ∈ others, next.current tag = state.current tag)
    (answers : state.answers ⊆ next.answers) : next.Awaited others where
  inFlight tag listed := (inFlight tag listed).trans (awaited.inFlight tag (within tag listed))
  answered tag listed := by
    rw [current tag listed]
    exact answers (awaited.answered tag (within tag listed))
  distinct := distinct

/-- The completions which the harvester has still to take are for requests in flight, one for
each, and the daemon does not answer them again. -/
structure Announced (state : Exchange) : Prop where
  indexed : Indexed state.dev.ring
  awaited : state.Awaited state.named

theorem announced_start {ringEntries : ℕ} (initialised : duvmInit ringEntries = .ok dev) :
    (start dev).Announced := by
  rcases duvmInit_eq_ok initialised with ⟨⟨order, rfl⟩, rfl⟩
  have empty : named (start ⟨duvmRingInit (2 ^ order) (2 ^ order), 2 ^ order,
      fun _ => ⟨none, ⟨0, 0, false⟩, .idle⟩, fun _ => none⟩) = [] := by
    simp [named, start, duvmRingInit, RingBuffer.visible, RingBuffer.span]
  refine ⟨⟨⟨order, rfl⟩, Nat.two_pow_pos order, Nat.two_pow_pos order⟩, ?_⟩
  rw [empty]
  exact .nil _

theorem named_completed (indexed : Indexed state.dev.ring) (comp : DuvmCompletion) :
    (state.completed comp).named = [] ∨
    (state.completed comp).named =
      state.named ++ (tagOfSeq state.dev.queueDepth comp.seq).toList := by
  rcases indexed.powerOfTwo with ⟨order, isPower⟩
  rcases @RingBuffer.visible_write _ state.dev.ring.completions _ _ _ _ isPower
    indexed.readBelow indexed.writeBelow comp with lapped | shown
  · left
    simp only [named, completed, setRing, lapped, List.filterMap_nil]
  · right
    simp only [named, completed, setRing, shown, List.filterMap_append]
    cases found : tagOfSeq state.dev.queueDepth comp.seq with
    | none => simp [found]
    | some tag => simp [found]

/-- The harvester takes the first completion. -/
theorem named_of_pending (indexed : Indexed state.dev.ring)
    (pending : state.dev.ring.compReadIdx ≠ state.dev.ring.compWriteIdx) :
    state.named = (tagOfSeq state.dev.queueDepth
      (state.dev.ring.completions state.dev.ring.compReadIdx).seq).toList ++
        state.polled.named := by
  rcases indexed.powerOfTwo with ⟨order, isPower⟩
  have shown := @RingBuffer.visible_take _ state.dev.ring.completions _ _ _ _ isPower
    indexed.readBelow indexed.writeBelow pending
  simp only [named, shown, polled, setRing]
  cases found : tagOfSeq state.dev.queueDepth
      (state.dev.ring.completions state.dev.ring.compReadIdx).seq with
  | none => simp [found]
  | some tag => simp [found]

theorem Indexed.take (indexed : Indexed ring) :
    RingBuffer.advance ring.capacity ring.compReadIdx < ring.capacity := by
  rcases indexed.powerOfTwo with ⟨order, isPower⟩
  exact RingBuffer.advance_lt isPower indexed.readBelow

theorem Indexed.write (indexed : Indexed ring) :
    RingBuffer.advance ring.capacity ring.compWriteIdx < ring.capacity := by
  rcases indexed.powerOfTwo with ⟨order, isPower⟩
  exact RingBuffer.advance_lt isPower indexed.writeBelow

/-- A request which is started was not in flight, so no completion names it. -/
theorem Announced.begin (announced : state.Announced)
    (notStarted : (state.dev.tags tag).state ≠ .started) (indexed : Indexed next.dev.ring)
    (named : next.named = state.named) (answers : next.answers = state.answers)
    (tags : ∀ other, other ≠ tag → next.dev.tags other = state.dev.tags other)
    (current : ∀ other, other ≠ tag → next.current other = state.current other) :
    next.Announced := by
  have awaited := announced.awaited
  have different : ∀ other ∈ state.named, other ≠ tag := by
    rintro other isNamed rfl
    exact notStarted (awaited.inFlight other isNamed)
  refine ⟨indexed, ?_⟩
  rw [named]
  refine awaited.kept awaited.distinct (fun _ isNamed => isNamed) ?_ ?_ ?_
  · intro other isNamed
    rw [tags other (different other isNamed)]
  · intro other isNamed
    exact current other (different other isNamed)
  · rw [answers]
    exact List.Subset.refl _

/-- The daemon answers a request in flight which no completion in the ring names. -/
theorem Announced.complete (announced : state.Announced) {comp : DuvmCompletion}
    (fresh : state.AnswersOnce (.complete comp)) :
    (state.completed comp).Announced := by
  have indexed := announced.indexed
  have awaited : (state.completed comp).Awaited state.named :=
    announced.awaited.kept announced.awaited.distinct (fun _ isNamed => isNamed)
      (fun _ _ => rfl) (fun _ _ => rfl) (List.subset_append_left _ _)
  refine ⟨⟨indexed.powerOfTwo, indexed.readBelow, indexed.write⟩, ?_⟩
  rcases named_completed indexed comp with lapped | shown
  · rw [lapped]
    exact .nil _
  · rw [shown]
    cases found : tagOfSeq state.dev.queueDepth comp.seq with
    | none =>
        rw [Option.toList_none, List.append_nil]
        exact awaited
    | some tag =>
        rcases fresh tag found with ⟨started, unanswered⟩
        refine awaited.concat started ?_ ?_
        · apply List.mem_append_right
          rw [found]
          exact List.mem_singleton_self _
        · intro isNamed
          exact unanswered (announced.awaited.answered tag isNamed)

/-- The completions behind the first one name other requests. -/
theorem Announced.rest (announced : state.Announced)
    (pending : state.dev.ring.compReadIdx ≠ state.dev.ring.compWriteIdx) :
    state.polled.named.Nodup ∧ ∀ tag ∈ state.polled.named, tag ∈ state.named ∧
      tagOfSeq state.dev.queueDepth
        (state.dev.ring.completions state.dev.ring.compReadIdx).seq ≠ some tag := by
  have split := named_of_pending announced.indexed pending
  have distinct := announced.awaited.distinct
  rw [split, List.nodup_append] at distinct
  refine ⟨distinct.2.1, fun tag isNamed => ⟨?_, fun first => ?_⟩⟩
  · rw [split]
    exact List.mem_append_right _ isNamed
  · rw [first] at distinct
    exact distinct.2.2 tag (List.mem_singleton_self tag) tag isNamed rfl

theorem Announced.namesInFlight (announced : state.Announced) (action : ExchangeAction) :
    state.NamesInFlight action := by
  cases action with
  | harvest =>
      intro pending tag found _
      apply announced.awaited.inFlight tag
      rw [named_of_pending announced.indexed pending, found]
      exact List.mem_append_left _ (List.mem_singleton_self tag)
  | queueRq | takeRequest | complete | ctlOpen | ctlRelease => trivial

theorem Announced.stepped (announced : state.Announced) (fresh : state.AnswersOnce action)
    (stepped : Stepped state action next) : next.Announced := by
  have indexed := announced.indexed
  have awaited := announced.awaited
  cases stepped with
  | unchanged => exact announced
  | settled notStarted | accepted notStarted =>
      refine announced.begin notStarted ⟨indexed.powerOfTwo, indexed.readBelow,
        indexed.writeBelow⟩ rfl rfl ?_ ?_
      · intro other different
        exact Function.update_of_ne different _ _
      · intro other different
        exact current_begun_of_ne state state.dev different
  | completed comp => exact announced.complete fresh
  | skipped pending unknown =>
      rcases announced.rest pending with ⟨distinct, others⟩
      refine ⟨⟨indexed.powerOfTwo, indexed.take, indexed.writeBelow⟩, ?_⟩
      exact awaited.kept distinct (fun tag isNamed => (others tag isNamed).1) (fun _ _ => rfl)
        (fun _ _ => rfl) (List.Subset.refl _)
  | @ended tag rq pending found listed =>
      rcases announced.rest pending with ⟨distinct, others⟩
      refine ⟨⟨indexed.powerOfTwo, indexed.take, indexed.writeBelow⟩, ?_⟩
      refine awaited.kept distinct (fun tag isNamed => (others tag isNamed).1) ?_
        (fun _ _ => rfl) (List.Subset.refl _)
      intro other isNamed
      have different : other ≠ tag := by
        rintro rfl
        exact (others other isNamed).2 found
      exact congrArg TagEntry.state (Function.update_of_ne different _ _)
  | taken | opened | released =>
      refine ⟨⟨indexed.powerOfTwo, indexed.readBelow, indexed.writeBelow⟩, ?_⟩
      exact ⟨awaited.inFlight, awaited.answered, awaited.distinct⟩

/-- A harvest is recorded as one of a request in flight exactly if it is one. -/
theorem inFlight_iff_of_stepped (stepped : Stepped state action next) :
    (∀ harvest ∈ next.harvests, harvest.inFlight = true) ↔
      (∀ harvest ∈ state.harvests, harvest.inFlight = true) ∧ state.NamesInFlight action := by
  cases stepped with
  | unchanged idle =>
      refine ⟨fun good => ⟨good, ?_⟩, And.left⟩
      cases action with
      | harvest => exact fun pending => absurd (idle rfl) pending
      | queueRq | takeRequest | complete | ctlOpen | ctlRelease => trivial
  | skipped pending unknown =>
      refine ⟨fun good => ⟨good, ?_⟩, And.left⟩
      intro _ tag found listed
      exact absurd (unknown tag found) listed
  | @ended tag rq pending found listed =>
      constructor
      · intro good
        refine ⟨fun harvest old => good harvest (List.mem_append_left _ old), ?_⟩
        intro _ other same _
        rw [found, Option.some.injEq] at same
        subst same
        exact of_decide_eq_true (good _ (List.mem_append_right _ (List.mem_singleton_self _)))
      · rintro ⟨good, named⟩ harvest isHarvest
        rcases List.mem_append.mp isHarvest with old | new
        · exact good harvest old
        · rw [List.mem_singleton.mp new]
          exact decide_eq_true (named pending tag found listed)
  | settled | accepted | taken | completed | opened | released =>
      exact ⟨fun good => ⟨good, trivial⟩, And.left⟩

/-- The harvester does no harm exactly as long as each completion which it takes names a request in
flight or none, which is so if the daemon answers requests in flight only and each of them once. -/
theorem harvester_tolerates (ringEntries : ℕ) (initialised : duvmInit ringEntries = .ok dev)
    (actions : List ExchangeAction) {final : Exchange}
    (ran : run step (start dev) actions = some final) :
    (final.Tolerates ↔ Along step NamesInFlight (start dev) actions) ∧
    (Along step AnswersOnce (start dev) actions → final.Tolerates) := by
  have exactly : final.Tolerates ↔ Along step NamesInFlight (start dev) actions := by
    constructor
    · intro tolerates
      have flagged := @Transition.flag_iff_along _ _ step NamesInFlight (fun _ => True)
        (start dev) final actions (fun state => ∀ harvest ∈ state.harvests, harvest.inFlight = true)
        trivial (fun _ _ _ _ _ => trivial)
        (fun _ _ _ _ stepped => inFlight_iff_of_stepped (stepped_of_step stepped)) ran
      exact (flagged.mp tolerates.inFlight).2
    · intro along
      have held : final.Held := by
        refine Transition.run_induction (held_start initialised) ?_ along ran
        intro state action next held named stepped
        exact held.stepped named (stepped_of_step stepped)
      exact held.tolerates
  refine ⟨exactly, fun along => exactly.mpr ?_⟩
  have announced : Transition.Throughout step Announced (start dev) actions := by
    refine Transition.throughout_of_along (announced_start initialised) ?_ along
    intro state action next announced fresh stepped
    exact announced.stepped fresh (stepped_of_step stepped)
  apply Transition.along_of_forall
  intro before action after middle split reached
  have isPrefix : before <+: actions := ⟨action :: after, split.symm⟩
  exact (announced before middle isPrefix reached).namesInFlight action

instance (state : Exchange) :
    (action : ExchangeAction) → Decidable (state.AnswersOnce action)
  | .complete comp => inferInstanceAs (Decidable (∀ tag ∈ tagOfSeq state.dev.queueDepth comp.seq,
      (state.dev.tags tag).state = .started ∧ state.current tag ∉ state.answers))
  | .queueRq _ _ _ | .takeRequest | .harvest | .ctlOpen _ | .ctlRelease => isTrue trivial

/-- Two requests in flight, which are answered in the other order, with a stray answer between. -/
def answeredInTurns : List ExchangeAction :=
  [.ctlOpen true, .queueRq 0 (Request.ofPage 0 .read .zero) noMemory,
    .queueRq 1 (Request.ofPage 1 .read .zero) noMemory, .takeRequest, .takeRequest,
    .complete ⟨2, 0, 1⟩, .complete ⟨9, 0, 0⟩, .harvest, .complete ⟨1, 0, 0⟩, .harvest, .harvest]

theorem harvester_tolerates_answers_in_turns :
    ∃ dev final, duvmInit 4 = .ok dev ∧ run step (start dev) answeredInTurns = some final ∧
      Along step AnswersOnce (start dev) answeredInTurns ∧
      final.harvests = [⟨(1, 1), true, true⟩, ⟨(0, 1), true, true⟩] ∧ final.Tolerates := by
  have ran : ∃ dev final, duvmInit 4 = .ok dev ∧
      run step (start dev) answeredInTurns = some final ∧
      Along step AnswersOnce (start dev) answeredInTurns ∧
      final.harvests = [⟨(1, 1), true, true⟩, ⟨(0, 1), true, true⟩] :=
    ⟨_, _, rfl, rfl, by decide, rfl⟩
  rcases ran with ⟨dev, final, initialised, reached, along, harvests⟩
  exact ⟨dev, final, initialised, reached, along, harvests,
    (harvester_tolerates 4 initialised answeredInTurns reached).2 along⟩

/-- A request which is answered. -/
def answeredRun : List ExchangeAction :=
  [.ctlOpen true, .queueRq 0 (Request.ofPage 0 .read .zero) noMemory, .takeRequest,
    .complete ⟨1, 0, 0⟩, .harvest]

/-- The same, and a second answer once another request has the slot. -/
def answeredTwiceRun : List ExchangeAction :=
  answeredRun ++ [.queueRq 1 (Request.ofPage 1 .read .zero) noMemory, .complete ⟨1, 0, 0⟩,
    .harvest]

/-- The request is ended a second time, and the slot of the other one, which is in flight, is
free. -/
theorem second_answer_harms :
    ∃ dev final, duvmInit 4 = .ok dev ∧ run step (start dev) answeredTwiceRun = some final ∧
      final.harvests = [⟨(0, 1), true, true⟩, ⟨(0, 1), false, false⟩] ∧
      (final.dev.tags 1).state = .started ∧ (final.dev.tags 1).cmd.stagingSlot = 0 ∧
      final.dev.ring.stagingBitmap 0 = false ∧ ¬final.Tolerates := by
  refine ⟨_, _, rfl, rfl, rfl, rfl, rfl, rfl, ?_⟩
  intro tolerates
  exact absurd tolerates.once (by decide)

end Exchange

end Duvm.Kmod
