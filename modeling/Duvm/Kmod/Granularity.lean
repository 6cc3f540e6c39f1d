import Duvm.Kmod.Overlays

/-!
# From accesses to calls

Whatever the interleaving of the accesses, the parties are in the middle of a state of
`Kmod.System` which has the invariant of the states reached there.

It is not said that the state is reached by the actions of `Kmod.System`. The harvester
may see a completion which it would not see if the daemon made its call at once: the
indices meet a little later.
-/

namespace Duvm.Kmod

open Function (update)
open Duvm.Daemon

universe u v

section Steps

variable {Env : Type u} {Engine : Type v} {model : EngineModel Env Engine} {initial : Engine}
  {world next : World Engine} {parties after : Parties Engine}

theorem PollingAt.frame {engine : Engine} {compWrite : ℕ} {polling : Polling}
    (place : PollingAt model world engine compWrite polling)
    (submitted : ∀ {index : ℕ} {submission}, world.submitted[index]? = some submission →
      next.submitted[index]? = some submission)
    (executed : next.executed = world.executed) (sameEngine : next.engine = world.engine)
    (reqReadIdx : next.dev.ring.reqReadIdx = world.dev.ring.reqReadIdx)
    (slots : ∀ {submission}, world.submitted[world.executed.length]? = some submission →
      slotBytes next.dev.ring.staging submission.slot =
        slotBytes world.dev.ring.staging submission.slot) :
    PollingAt model next engine compWrite polling := by
  have oldest : ∀ {submission}, world.submitted[world.executed.length]? = some submission →
      next.submitted[next.executed.length]? = some submission := by
    intro submission isOldest
    rw [executed]
    exact submitted isOldest
  have inHands : ∀ {submission execution}, InHands model world engine submission execution →
      InHands model next engine submission execution := by
    intro submission execution inHands
    refine ⟨oldest inHands.next, inHands.request, ?_, ?_⟩
    · rw [sameEngine]
      exact inHands.executes
    · intro page given
      rw [slots inHands.next]
      exact inHands.given given
  cases place with
  | idle atIdle same => exact .idle atIdle (same.trans sameEngine.symm)
  | pending atPending same waits =>
      rw [← reqReadIdx] at atPending
      exact .pending atPending (same.trans sameEngine.symm)
        (Log.index_lt (oldest (List.getElem?_eq_getElem waits)))
  | fetched atFetched same isOldest =>
      rw [← reqReadIdx] at atFetched
      exact .fetched atFetched (same.trans sameEngine.symm) (oldest isOldest)
  | executed atExecuted held =>
      rw [← reqReadIdx] at atExecuted
      exact .executed atExecuted (inHands held)
  | filled atFilled held =>
      rw [← reqReadIdx] at atFilled
      exact .filled atFilled (inHands held)
  | consumed atConsumed same => exact .consumed atConsumed (same.trans sameEngine.symm)
  | written atWritten same => exact .written atWritten (same.trans sameEngine.symm)

/-- What the harvester relies on. -/
theorem HarvestingAt.frame {tags others : ℕ → TagEntry} {owed owes : ℕ} {harvesting : Harvesting}
    (place : HarvestingAt world tags owed harvesting)
    (ready : ∀ {execution}, Ready world owed execution → Ready next owes execution)
    (compReadIdx : next.dev.ring.compReadIdx = world.dev.ring.compReadIdx)
    (sameTags : ∀ {ending}, harvesting.ending? = some ending → others ending.tag = tags ending.tag)
    (free : ∀ {tag}, harvesting.held? = some tag →
      world.dev.ring.stagingBitmap (world.dev.tags tag).cmd.stagingSlot = false →
      next.dev.ring.stagingBitmap (next.dev.tags tag).cmd.stagingSlot = false) :
    HarvestingAt next others owes harvesting := by
  cases place with
  | idle atIdle => exact .idle atIdle
  | found atFound isReady =>
      rw [← compReadIdx] at atFound
      exact .found atFound (ready isReady)
  | copied atCopied isReady =>
      rw [← compReadIdx] at atCopied
      exact .copied atCopied (ready isReady)
  | taken atTaken isReady => exact .taken atTaken (ready isReady)
  | filled atFilled started isFree =>
      subst atFilled
      refine .filled rfl ?_ (free rfl isFree)
      exact (congrArg TagEntry.state (sameTags rfl)).trans started
  | freed atFreed started =>
      subst atFreed
      exact .freed rfl ((congrArg TagEntry.state (sameTags rfl)).trans started)

namespace Abstracts

variable {queued : Submission} {submission : Submission} {execution : Execution}

/-- The request which is being submitted has nothing in common with one in flight. -/
theorem apart_of_live (abstracts : Abstracts model parties world)
    (staged : world.Staged model initial) {index : ℕ} (inFlight : world.consumed ≤ index)
    (listed : world.submitted[index]? = some submission)
    (isQueued : parties.queueing.submission? = some queued) :
    queued.slot ≠ submission.slot ∧ queued.tag ≠ submission.tag := by
  have unsent := abstracts.queueing.unsent isQueued
  have live := World.mem_live inFlight listed
  refine ⟨(staged.owned.slots.slot_ne unsent.free live).symm, ?_⟩
  intro same
  have started := staged.owned.coherent.tags.state_eq_started live
  rw [← same] at started
  exact unsent.notStarted started

theorem single (abstracts : Abstracts model parties world)
    (isQueued : parties.queueing.submission? = some queued) : queued.rq.SinglePage :=
  (abstracts.queueing.unsent isQueued).single

/-- The page which the daemon has loaded is not where a request is being submitted. -/
theorem apart_of_filled (abstracts : Abstracts model parties world)
    (staged : world.Staged model initial)
    (inHands : InHands model world parties.engine submission execution)
    (isQueued : parties.queueing.submission? = some queued) :
    queued.slot ≠ execution.request.stagingSlot := by
  rw [inHands.request]
  exact (abstracts.apart_of_live staged staged.owned.coherent.rings.consumedLe inHands.next
    isQueued).1

theorem apart_of_polling (abstracts : Abstracts model parties world)
    (staged : world.Staged model initial) (isQueued : parties.queueing.submission? = some queued)
    {reqRead : ℕ} (filled : parties.polling = .filled reqRead execution) :
    execution.request.stagingSlot ≠ queued.slot := by
  cases abstracts.polling with
  | @filled _ found atFilled inHands =>
      rw [filled] at atFilled
      cases atFilled
      exact (abstracts.apart_of_filled staged inHands isQueued).symm
  | idle atIdle => simp [filled] at atIdle
  | pending atPending => simp [filled] at atPending
  | fetched atFetched => simp [filled] at atFetched
  | executed atExecuted => simp [filled] at atExecuted
  | consumed atConsumed => simp [filled] at atConsumed
  | written atWritten => simp [filled] at atWritten

/-- The block layer calls `duvm_queue_rq`. -/
theorem enter (abstracts : Abstracts model parties world) {tag : ℕ} {rq : Request}
    (idle : parties.queueing = .idle) (inRange : tag < parties.dev.queueDepth)
    (notStarted : (parties.dev.tags tag).state ≠ .started) (single : rq.SinglePage) :
    Abstracts model (parties.enter tag rq) world := by
  rcases parties with ⟨dev, engine, queueing, polling, harvesting, ended⟩
  subst idle
  unfold Parties.enter
  cases allocation : duvmAllocStagingSlot dev.ring with
  | mk found ring =>
      cases found with
      | none => exact abstracts
      | some slot =>
          rcases duvmAllocStagingSlot_eq_some allocation with ⟨inside, free, rfl⟩
          have isFree : harvesting.mark world.dev.tags world.dev.ring.stagingBitmap slot =
              false := by
            rw [← free]
            exact congrFun abstracts.bitmap.symm slot
          rcases Harvesting.free_of_mark isFree with ⟨worldFree, apart⟩
          -- the request which the harvester is ending is still started
          have apartTag : ∀ {ending}, harvesting.ending? = some ending → tag ≠ ending.tag := by
            rintro ending isEnding rfl
            cases abstracts.harvesting with
            | filled atFilled started =>
                cases atFilled
                cases isEnding
                exact notStarted started
            | freed atFreed started =>
                cases atFreed
                cases isEnding
                exact notStarted started
            | idle atIdle =>
                cases atIdle
                cases isEnding
            | found atFound =>
                cases atFound
                cases isEnding
            | copied atCopied =>
                cases atCopied
                cases isEnding
            | taken atTaken =>
                cases atTaken
                cases isEnding
          have sameTag : dev.tags tag = world.dev.tags tag := by
            rw [← Harvesting.settle_apply dev.tags apartTag]
            exact congrFun abstracts.tags tag
          refine { abstracts with
            bitmap := ?_, queueing := ⟨?_, by simp [Queueing.cell?]⟩
            apartTags := ?_, apartSlots := ?_ }
          · exact congrArg (fun bitmap => update bitmap slot true) abstracts.bitmap
          · rintro submission ⟨⟩
            refine ⟨?_, ?_, ?_, worldFree, single⟩
            · exact inRange.trans_eq abstracts.queueDepth
            · rw [← sameTag]
              exact notStarted
            · exact inside.trans_eq abstracts.stagingPages
          · rintro submission ending ⟨⟩ isEnding
            exact apartTag isEnding
          · rintro submission held ⟨⟩ isHeld
            exact apart isHeld

/-- There is room in the ring for as long as the submitter has not written its index. -/
theorem room_iff (staged : world.Staged model initial) :
    RingBuffer.advance world.dev.ring.capacity world.dev.ring.reqWriteIdx ≠
      world.dev.ring.reqReadIdx ↔
    world.submitted.length + 1 < world.executed.length + world.dev.ring.capacity := by
  have rings := staged.owned.coherent.rings
  have close : (world.submitted.map Submission.ring).length <
      world.executed.length + world.dev.ring.capacity := by
    simpa using rings.cellFree
  rw [rings.requestRing.advance_ne_iff close, List.length_map]

/-- The command data of the request is filled in. -/
theorem starts (abstracts : Abstracts model parties world)
    (atStaged : parties.queueing = .staged submission) :
    Abstracts model
      { parties.setTag submission.tag submission.entry with queueing := .started submission }
      world := by
  rcases parties with ⟨dev, engine, queueing, polling, harvesting, ended⟩
  subst atStaged
  refine { abstracts with
    tags := ?_, queueing := ⟨abstracts.queueing.unsent, by simp [Queueing.cell?]⟩
    harvesting := ?_ }
  · change harvesting.settle (update dev.tags submission.tag submission.entry) = _
    rw [Harvesting.settle_update dev.tags _ fun isEnding => abstracts.apartTags rfl isEnding]
    exact congrArg (fun tags => update tags submission.tag submission.entry) abstracts.tags
  · refine abstracts.harvesting.frame (fun ready => ready) rfl ?_ (fun _ isFree => isFree)
    intro ending isEnding
    exact Function.update_of_ne (abstracts.apartTags rfl isEnding).symm _ _

/-- The index is written, upon which the request is submitted. -/
theorem submits (abstracts : Abstracts model parties world) (staged : world.Staged model initial)
    {writeIdx : ℕ} (atWritten : parties.queueing = .written submission writeIdx) :
    (world.accepted submission).Staged model initial ∧
      Abstracts model
        { parties.setRing { parties.dev.ring with
            reqWriteIdx := RingBuffer.advance parties.dev.ring.capacity writeIdx } with
          queueing := .idle }
        (world.accepted submission) := by
  have unsent := abstracts.queueing.unsent (by rw [atWritten]; rfl)
  rcases abstracts.queueing.room (by rw [atWritten]; rfl) with ⟨rfl, close⟩
  have filled : ∀ {reqRead execution}, parties.polling = .filled reqRead execution →
      execution.request.stagingSlot ≠ submission.slot :=
    abstracts.apart_of_polling staged (by rw [atWritten]; rfl)
  have accepted : World.Stepped model world
      (.queueRq submission.tag submission.rq noMemory) (world.accepted submission) :=
    .accepted submission abstracts.online unsent.inRange unsent.notStarted unsent.inside
      unsent.free ((room_iff staged).mpr close)
  have apartTag : ∀ {ending}, parties.harvesting.ending? = some ending →
      submission.tag ≠ ending.tag :=
    abstracts.apartTags (by rw [atWritten]; rfl)
  have apartSlot : ∀ {tag}, parties.harvesting.held? = some tag →
      submission.slot ≠ (world.dev.tags tag).cmd.stagingSlot :=
    abstracts.apartSlots (by rw [atWritten]; rfl)
  have otherTag : ∀ {tag}, parties.harvesting.held? = some tag →
      (world.accepted submission).dev.tags tag = world.dev.tags tag := by
    intro tag isHeld
    rcases Harvesting.exists_ending_of_held isHeld with ⟨ending, isEnding, rfl⟩
    exact Function.update_of_ne (apartTag isEnding).symm _ _
  have pages : World.PagesOnly
      (.queueRq submission.tag submission.rq noMemory : Action Env) := unsent.single
  refine ⟨staged.stepped pages accepted, ?_⟩
  rcases parties with ⟨dev, engine, queueing, polling, harvesting, ended⟩
  subst atWritten
  refine { abstracts with
    reqWriteIdx := ?_, staging := ?_, bitmap := ?_
    queueing := ⟨by simp [Queueing.submission?], by simp [Queueing.cell?]⟩
    polling := ?_, harvesting := ?_
    apartTags := by simp [Queueing.submission?], apartSlots := by simp [Queueing.submission?] }
  · change RingBuffer.advance dev.ring.capacity _ = _
    rw [abstracts.capacity]
    rfl
  · change dev.ring.staging = polling.fill (submission.rq.stage world.dev.ring.staging _)
    rw [← Polling.stage_fill unsent.single world.dev.ring.staging filled]
    exact abstracts.staging
  · change dev.ring.stagingBitmap = harvesting.mark (update world.dev.tags submission.tag _)
      (update world.dev.ring.stagingBitmap submission.slot true)
    rw [Harvesting.mark_tags _ _ _ apartTag, Harvesting.mark_update _ _ _ apartSlot]
    exact abstracts.bitmap
  · refine abstracts.polling.frame Log.keep rfl rfl rfl ?_
    intro oldest listed
    exact staged.slotBytes_stage unsent.single unsent.free
      staged.owned.coherent.rings.consumedLe listed
  · refine abstracts.harvesting.frame (fun ready => ⟨ready.published, ready.oldest⟩) rfl
      (fun _ => rfl) ?_
    intro tag isHeld isFree
    rw [otherTag isHeld]
    exact (Function.update_of_ne (apartSlot isHeld).symm _ _).trans isFree

/-- The ring was full: the slot is given back. -/
theorem releases (abstracts : Abstracts model parties world)
    (atRefused : parties.queueing = .refused submission) :
    Abstracts model
      { parties.setRing (duvmFreeStagingSlot parties.dev.ring submission.slot) with
        queueing := .released submission } world := by
  have unsent := abstracts.queueing.unsent (by rw [atRefused]; rfl)
  have isFree := Harvesting.mark_apply world.dev.tags world.dev.ring.stagingBitmap
    (abstracts.apartSlots (by rw [atRefused]; rfl))
  rw [unsent.free] at isFree
  rcases parties with ⟨dev, engine, queueing, polling, harvesting, ended⟩
  subst atRefused
  refine { abstracts with
    bitmap := ?_
    queueing := ⟨abstracts.queueing.unsent, by simp [Queueing.cell?]⟩ }
  change update dev.ring.stagingBitmap submission.slot false = harvesting.mark _ _
  have marked : dev.ring.stagingBitmap = update (harvesting.mark _ _) submission.slot true :=
    abstracts.bitmap
  rw [marked, Function.update_idem, ← isFree, Function.update_eq_self]

/-- The request goes back to the block layer. -/
theorem returns (abstracts : Abstracts model parties world) (staged : world.Staged model initial)
    (atReleased : parties.queueing = .released submission) :
    (world.refusedRing submission.tag submission.rq submission.slot).Staged model initial ∧
      Abstracts model
        { parties.setTag submission.tag { submission.entry with state := .idle } with
          queueing := .idle }
        (world.refusedRing submission.tag submission.rq submission.slot) := by
  have unsent := abstracts.queueing.unsent (by rw [atReleased]; rfl)
  have filled : ∀ {reqRead execution}, parties.polling = .filled reqRead execution →
      execution.request.stagingSlot ≠ submission.slot :=
    abstracts.apart_of_polling staged (by rw [atReleased]; rfl)
  have refused : World.Stepped model world (.queueRq submission.tag submission.rq noMemory)
      (world.refusedRing submission.tag submission.rq submission.slot) :=
    .refused unsent.notStarted unsent.free
  have apartTag : ∀ {ending}, parties.harvesting.ending? = some ending →
      submission.tag ≠ ending.tag :=
    abstracts.apartTags (by rw [atReleased]; rfl)
  have otherTag : ∀ {tag}, parties.harvesting.held? = some tag →
      (world.refusedRing submission.tag submission.rq submission.slot).dev.tags tag =
        world.dev.tags tag := by
    intro tag isHeld
    rcases Harvesting.exists_ending_of_held isHeld with ⟨ending, isEnding, rfl⟩
    exact Function.update_of_ne (apartTag isEnding).symm _ _
  have pages : World.PagesOnly
      (.queueRq submission.tag submission.rq noMemory : Action Env) := unsent.single
  refine ⟨staged.stepped pages refused, ?_⟩
  rcases parties with ⟨dev, engine, queueing, polling, harvesting, ended⟩
  subst atReleased
  refine { abstracts with
    staging := ?_, bitmap := ?_, tags := ?_
    queueing := ⟨by simp [Queueing.submission?], by simp [Queueing.cell?]⟩
    polling := ?_, harvesting := ?_
    apartTags := by simp [Queueing.submission?], apartSlots := by simp [Queueing.submission?] }
  · change dev.ring.staging = polling.fill (submission.rq.stage world.dev.ring.staging _)
    rw [← Polling.stage_fill unsent.single world.dev.ring.staging filled]
    exact abstracts.staging
  · change dev.ring.stagingBitmap = harvesting.mark (update world.dev.tags submission.tag _) _
    rw [Harvesting.mark_tags _ _ _ apartTag]
    exact abstracts.bitmap
  · change harvesting.settle (update dev.tags submission.tag _) = _
    rw [Harvesting.settle_update dev.tags _ apartTag]
    have entered : harvesting.settle dev.tags = update _ submission.tag submission.entry :=
      abstracts.tags
    rw [entered, Function.update_idem]
    rfl
  · refine abstracts.polling.frame (fun listed => listed) rfl rfl rfl ?_
    intro oldest listed
    exact staged.slotBytes_stage unsent.single unsent.free
      staged.owned.coherent.rings.consumedLe listed
  · refine abstracts.harvesting.frame (fun ready => ⟨ready.published, ready.oldest⟩) rfl ?_ ?_
    · intro ending isEnding
      exact Function.update_of_ne (apartTag isEnding).symm _ _
    · intro tag isHeld isFree
      rw [otherTag isHeld]
      exact isFree

theorem queueStep (abstracts : Abstracts model parties world)
    (staged : world.Staged model initial) (stepped : parties.queueStep = some after) :
    ∃ next : World Engine, next.Staged model initial ∧ Abstracts model after next := by
  cases atQueue : parties.queueing with
  | idle =>
      simp only [Parties.queueStep, atQueue] at stepped
      cases stepped
  | allocated submission =>
      simp only [Parties.queueStep, atQueue] at stepped
      cases stepped
      refine ⟨world, staged, ?_⟩
      rcases parties with ⟨dev, engine, queueing, polling, harvesting, ended⟩
      subst atQueue
      exact { abstracts with
        staging := congrArg (fun staging => submission.rq.stage staging submission.slot)
          abstracts.staging
        queueing := ⟨abstracts.queueing.unsent, by simp [Queueing.cell?]⟩ }
  | staged submission =>
      simp only [Parties.queueStep, atQueue] at stepped
      cases stepped
      exact ⟨world, staged, abstracts.starts atQueue⟩
  | started submission =>
      simp only [Parties.queueStep, atQueue] at stepped
      rw [abstracts.capacity, abstracts.reqWriteIdx, abstracts.reqReadIdx] at stepped
      refine ⟨world, staged, ?_⟩
      rcases parties with ⟨dev, engine, queueing, polling, harvesting, ended⟩
      subst atQueue
      split at stepped
      · cases stepped
        exact { abstracts with queueing := ⟨abstracts.queueing.unsent, by simp [Queueing.cell?]⟩ }
      · next hasRoom =>
          cases stepped
          refine { abstracts with queueing := ⟨abstracts.queueing.unsent, ?_⟩ }
          rintro writeIdx ⟨⟩
          exact ⟨rfl, (room_iff staged).mp hasRoom⟩
  | tested submission writeIdx =>
      simp only [Parties.queueStep, atQueue] at stepped
      cases stepped
      refine ⟨world, staged, ?_⟩
      rcases parties with ⟨dev, engine, queueing, polling, harvesting, ended⟩
      subst atQueue
      exact { abstracts with
        requests := congrArg
          (fun requests : ℕ → DuvmRequest => update requests writeIdx submission.ring)
          abstracts.requests
        queueing := ⟨abstracts.queueing.unsent, abstracts.queueing.room⟩ }
  | written submission writeIdx =>
      simp only [Parties.queueStep, atQueue] at stepped
      cases stepped
      exact ⟨_, abstracts.submits staged atQueue⟩
  | refused submission =>
      simp only [Parties.queueStep, atQueue] at stepped
      cases stepped
      exact ⟨world, staged, abstracts.releases atQueue⟩
  | released submission =>
      simp only [Parties.queueStep, atQueue] at stepped
      cases stepped
      exact ⟨_, abstracts.returns staged atQueue⟩

/-- A request which has not been executed can be seen by the daemon. -/
theorem pending_of_lt (staged : world.Staged model initial)
    (waits : world.executed.length < world.submitted.length) :
    world.dev.ring.reqReadIdx ≠ world.dev.ring.reqWriteIdx := by
  have rings := staged.owned.coherent.rings
  rw [rings.reqReadIdx, rings.reqWriteIdx]
  have close := rings.cellFree
  intro meet
  have same := (RingBuffer.mod_eq_mod_iff waits.le close.le).mp meet.symm
  omega

/-- The daemon calls the engine, on the page which the request was submitted with. -/
theorem calls (abstracts : Abstracts model parties world) (staged : world.Staged model initial)
    {env : Env} {engine : Engine}
    (oldest : world.submitted[world.executed.length]? = some submission)
    (same : parties.engine = world.engine)
    (unfilled : parties.polling.fill world.dev.ring.staging = world.dev.ring.staging)
    (called : execute model env parties.dev.ring.staging parties.engine submission.ring =
      (some execution, engine)) :
    InHands model world engine submission execution := by
  rcases executes_of_execute called with ⟨request, executes, given⟩
  rw [same] at executes
  refine ⟨oldest, request, executes, ?_⟩
  intro page isGiven
  have isRead := given page isGiven
  rw [request] at isRead
  have inSlot := toList_eq_slotBytes_iff.mpr isRead
  rw [abstracts.staging, unfilled] at inSlot
  rw [inSlot]
  apply Queueing.slotBytes_stage
  · exact abstracts.single
  · intro queued isQueued
    exact (abstracts.apart_of_live staged staged.owned.coherent.rings.consumedLe oldest
      isQueued).1

/-- The daemon writes its index, upon which the request is executed. -/
theorem consumes (abstracts : Abstracts model parties world) (staged : world.Staged model initial)
    (env : Env) (atFilled : parties.polling = .filled world.dev.ring.reqReadIdx execution)
    (inHands : InHands model world parties.engine submission execution) :
    (world.served execution parties.engine).Staged model initial ∧
      Abstracts model
        { parties.setRing { parties.dev.ring with
            reqReadIdx := RingBuffer.advance parties.dev.ring.capacity
              world.dev.ring.reqReadIdx } with
          polling := .consumed execution }
        (world.served execution parties.engine) := by
  have rings := staged.owned.coherent.rings
  have pending := pending_of_lt staged (Log.index_lt inHands.next)
  have isRequest : execution.request = world.dev.ring.requests world.dev.ring.reqReadIdx := by
    rcases rings.exists_waiting pending with ⟨other, listed, cell⟩
    rw [cell, inHands.request]
    exact congrArg Submission.ring (Option.some.inj (inHands.next.symm.trans listed))
  have served : World.Stepped model world (.pollOnce env)
      (world.served execution parties.engine) := by
    refine .served execution pending isRequest inHands.executes ?_
    intro page given
    rw [inHands.request]
    exact toList_eq_slotBytes_iff.mp (inHands.given given)
  have pages : World.PagesOnly (.pollOnce env : Action Env) := trivial
  refine ⟨staged.stepped pages served, ?_⟩
  have behind := rings.consumedLe
  rcases parties with ⟨dev, engine, queueing, polling, harvesting, ended⟩
  subst atFilled
  have compWrite : dev.ring.compWriteIdx = world.dev.ring.compWriteIdx :=
    abstracts.compWriteIdx.trans rings.compWriteIdx.symm
  have completions : world.dev.ring.completions = dev.ring.completions := abstracts.completions
  refine { abstracts with
    reqReadIdx := ?_, completions := ?_, compWriteIdx := ?_, behind := ?_
    queueing := ⟨?_, ?_⟩, polling := .consumed rfl rfl, harvesting := ?_ }
  · exact congrArg (fun capacity => RingBuffer.advance capacity _) abstracts.capacity
  · change update world.dev.ring.completions world.dev.ring.compWriteIdx _ =
      update dev.ring.completions dev.ring.compWriteIdx _
    rw [compWrite, completions]
    rfl
  · change dev.ring.compWriteIdx =
      ((world.executed ++ [execution]).length - 1) % world.dev.ring.capacity
    rw [List.length_append, List.length_singleton, Nat.add_sub_cancel]
    exact abstracts.compWriteIdx
  · change world.consumed + 1 ≤ (world.executed ++ [execution]).length
    rw [List.length_append, List.length_singleton]
    omega
  · intro queued isQueued
    have unsent := abstracts.queueing.unsent isQueued
    exact ⟨unsent.inRange, unsent.notStarted, unsent.inside, unsent.free, unsent.single⟩
  · intro writeIdx found
    rcases abstracts.queueing.room found with ⟨isIdx, close⟩
    refine ⟨isIdx, ?_⟩
    change world.submitted.length + 1 <
      (world.executed ++ [execution]).length + world.dev.ring.capacity
    rw [List.length_append, List.length_singleton]
    omega
  · refine abstracts.harvesting.frame ?_ rfl (fun _ => rfl) (fun _ isFree => isFree)
    rintro found ⟨published, isOldest⟩
    refine ⟨?_, Log.keep isOldest⟩
    change world.consumed + 1 < (world.executed ++ [execution]).length
    rw [List.length_append, List.length_singleton]
    exact Nat.succ_lt_succ published

/-- The completion is published. -/
theorem publishes (abstracts : Abstracts model parties world)
    (staged : world.Staged model initial)
    (atWritten : parties.polling = .written parties.dev.ring.compWriteIdx execution)
    (same : parties.engine = world.engine) :
    Abstracts model
      { parties.setRing { parties.dev.ring with
          compWriteIdx := RingBuffer.advance parties.dev.ring.capacity
            parties.dev.ring.compWriteIdx } with
        polling := .idle } world := by
  have behind := abstracts.behind
  have compWrite := abstracts.compWriteIdx
  rw [atWritten] at behind compWrite
  rcases staged.owned.coherent.rings.powerOfTwo with ⟨order, isPower⟩
  rcases parties with ⟨dev, engine, queueing, polling, harvesting, ended⟩
  simp only [Polling.owed] at behind compWrite atWritten
  subst atWritten
  refine { abstracts with
    compWriteIdx := ?_, behind := ?_, polling := .idle rfl same, harvesting := ?_ }
  · change RingBuffer.advance dev.ring.capacity dev.ring.compWriteIdx =
      world.executed.length % world.dev.ring.capacity
    rw [abstracts.capacity, compWrite, isPower, RingBuffer.advance_mod, Nat.sub_add_cancel]
    omega
  · exact (Nat.le_add_right _ 1).trans behind
  · refine abstracts.harvesting.frame ?_ rfl (fun _ => rfl) (fun _ isFree => isFree)
    rintro found ⟨published, oldest⟩
    exact ⟨(Nat.le_add_right _ 1).trans_lt published, oldest⟩

theorem pollStep (abstracts : Abstracts model parties world) (staged : world.Staged model initial)
    {env : Env} (stepped : parties.pollStep model env = some after) :
    ∃ next : World Engine, next.Staged model initial ∧ Abstracts model after next := by
  have rings := staged.owned.coherent.rings
  cases abstracts.polling with
  | idle atIdle same =>
      simp only [Parties.pollStep, atIdle] at stepped
      rw [abstracts.reqReadIdx, abstracts.reqWriteIdx] at stepped
      refine ⟨world, staged, ?_⟩
      split at stepped
      · cases stepped
        exact abstracts
      · next pending =>
          cases stepped
          rcases rings.exists_waiting pending with ⟨_, waiting, _⟩
          rcases parties with ⟨dev, engine, queueing, polling, harvesting, ended⟩
          subst atIdle
          exact { abstracts with polling := .pending rfl same (Log.index_lt waiting) }
  | pending atPending same waits =>
      simp only [Parties.pollStep, atPending] at stepped
      cases stepped
      refine ⟨world, staged, ?_⟩
      have pending := pending_of_lt staged waits
      rcases rings.exists_waiting pending with ⟨submission, waiting, cell⟩
      have isRequest : parties.dev.ring.requests world.dev.ring.reqReadIdx = submission.ring := by
        rw [abstracts.requests, Queueing.put_apply, cell]
        intro writeIdx found
        rw [(abstracts.queueing.room found).1]
        exact pending
      rw [isRequest]
      rcases parties with ⟨dev, engine, queueing, polling, harvesting, ended⟩
      subst atPending
      exact { abstracts with polling := .fetched rfl same waiting }
  | @fetched submission atFetched same oldest =>
      simp only [Parties.pollStep, atFetched] at stepped
      refine ⟨world, staged, ?_⟩
      cases called : execute model env parties.dev.ring.staging parties.engine
          submission.ring with
      | mk result engine =>
          rw [called] at stepped
          cases result with
          | none => cases stepped
          | some execution =>
              cases stepped
              have inHands := abstracts.calls staged oldest same (by rw [atFetched]; rfl) called
              rcases parties with ⟨dev, before, queueing, polling, harvesting, ended⟩
              subst atFetched
              exact { abstracts with polling := .executed rfl inHands }
  | @executed submission execution atExecuted inHands =>
      simp only [Parties.pollStep, atExecuted] at stepped
      cases stepped
      refine ⟨world, staged, ?_⟩
      have commute := Queueing.stage_fill world.dev.ring.staging abstracts.single
        (abstracts.apart_of_filled staged inHands)
      rcases parties with ⟨dev, engine, queueing, polling, harvesting, ended⟩
      subst atExecuted
      refine { abstracts with staging := ?_, polling := .filled rfl inHands }
      change execution.fill dev.ring.staging = queueing.stage (execution.fill _)
      rw [commute]
      exact congrArg execution.fill abstracts.staging
  | filled atFilled inHands =>
      simp only [Parties.pollStep, atFilled] at stepped
      cases stepped
      exact ⟨_, abstracts.consumes staged env atFilled inHands⟩
  | @consumed execution atConsumed same =>
      simp only [Parties.pollStep, atConsumed] at stepped
      cases stepped
      refine ⟨world, staged, ?_⟩
      rcases parties with ⟨dev, engine, queueing, polling, harvesting, ended⟩
      subst atConsumed
      exact { abstracts with polling := .written rfl same }
  | written atWritten same =>
      simp only [Parties.pollStep, atWritten] at stepped
      cases stepped
      exact ⟨world, staged, abstracts.publishes staged atWritten same⟩

/-- A completion which the harvester sees is there. -/
theorem exists_ready (abstracts : Abstracts model parties world)
    (notAhead : parties.harvesting.ahead = 0)
    (visible : parties.dev.ring.compReadIdx ≠ parties.dev.ring.compWriteIdx) :
    ∃ execution, Ready world parties.polling.owed execution := by
  have behind := abstracts.behind
  have published : world.consumed + parties.polling.owed < world.executed.length := by
    by_contra none
    have all : world.consumed = world.executed.length - parties.polling.owed := by omega
    apply visible
    rw [abstracts.compReadIdx, abstracts.compWriteIdx, notAhead, ← all]
    rfl
  exact ⟨_, published, List.getElem?_eq_getElem (by omega)⟩

/-- The completion which the daemon is about to write is not the one which is copied. -/
theorem compReadIdx_ne (abstracts : Abstracts model parties world)
    (staged : world.Staged model initial) (owes : parties.polling.owed = 1)
    (published : world.consumed + parties.polling.owed < world.executed.length) :
    world.dev.ring.compReadIdx ≠ parties.dev.ring.compWriteIdx := by
  have rings := staged.owned.coherent.rings
  have within := rings.executedLe
  have few := staged.owned.coherent.tags.length_le
  have depth := staged.owned.coherent.depth
  rw [World.live, List.length_drop] at few
  intro meet
  rw [abstracts.compWriteIdx, rings.compReadIdx] at meet
  have same := (RingBuffer.mod_eq_mod_iff (by omega) (by omega)).mp meet.symm
  omega

theorem completion_eq (abstracts : Abstracts model parties world)
    (staged : world.Staged model initial) (ready : Ready world parties.polling.owed execution) :
    parties.dev.ring.completions world.dev.ring.compReadIdx = completionOf execution := by
  have rings := staged.owned.coherent.rings
  have inRing : world.dev.ring.completions world.dev.ring.compReadIdx =
      completionOf execution := by
    have listed : (world.executed.map completionOf)[world.consumed]? =
        some (completionOf execution) := by
      rw [List.getElem?_map, ready.oldest]
      rfl
    rw [rings.compReadIdx]
    exact rings.completions world.consumed _ (le_refl _) listed
  have elsewhere := fun owes => abstracts.compReadIdx_ne staged owes ready.published
  rw [abstracts.completions] at inRing
  cases atPolling : parties.polling with
  | consumed found =>
      rw [atPolling] at inRing elsewhere
      rw [← inRing]
      exact (Function.update_of_ne (elsewhere rfl) _ _).symm
  | idle | pending | fetched | executed | filled | written =>
      rw [atPolling] at inRing
      exact inRing

/-- The slot of the oldest request in flight is as it should be. -/
theorem slotBytes_oldest (abstracts : Abstracts model parties world)
    (staged : world.Staged model initial)
    (listed : world.submitted[world.consumed]? = some submission)
    (published : world.consumed < world.executed.length) :
    slotBytes parties.dev.ring.staging submission.slot =
      slotBytes world.dev.ring.staging submission.slot := by
  rw [abstracts.staging, Queueing.slotBytes_stage _ abstracts.single
    fun isQueued => (abstracts.apart_of_live staged (le_refl _) listed isQueued).1]
  cases abstracts.polling with
  | filled atFilled inHands =>
      rw [atFilled]
      apply slotBytes_fill_of_ne
      rw [inHands.request]
      exact staged.owned.slot_ne (le_refl _) staged.owned.coherent.rings.consumedLe published.ne
        listed inHands.next
  | idle atIdle => rw [atIdle]; rfl
  | pending atPending => rw [atPending]; rfl
  | fetched atFetched => rw [atFetched]; rfl
  | executed atExecuted => rw [atExecuted]; rfl
  | consumed atConsumed => rw [atConsumed]; rfl
  | written atWritten => rw [atWritten]; rfl

/-- What the harvester does with a completion. -/
theorem harvestStep_of_taken (abstracts : Abstracts model parties world)
    (staged : world.Staged model initial)
    (atTaken : parties.harvesting = .taken (completionOf execution))
    (ready : Ready world parties.polling.owed execution)
    (listed : world.submitted[world.consumed]? = some submission)
    (request : execution.request = submission.ring) :
    parties.dev.tags submission.tag = submission.entry ∧
      parties.harvestStep = some { parties with
        harvesting := .filled submission.tag
          (world.answer submission.rq submission.entry.cmd execution.result) } := by
  have live := World.mem_live (le_refl _) listed
  have tags := abstracts.tags
  rw [atTaken] at tags
  have entry : parties.dev.tags submission.tag = submission.entry := by
    rw [← staged.owned.coherent.tags.entries submission live,
      ← Queueing.enter_apply world.dev.tags fun isQueued =>
        (abstracts.apart_of_live staged (le_refl _) listed isQueued).2]
    exact congrFun tags submission.tag
  have isTag : tagOfSeq parties.dev.queueDepth (completionOf execution).seq =
      some submission.tag := by
    rw [World.tagOfSeq_eq_some_iff, abstracts.queueDepth, completionOf, request]
    exact ⟨rfl, staged.owned.coherent.tags.inRange submission live⟩
  have filled : submission.rq.unstage parties.dev.ring.staging submission.slot =
      submission.rq.unstage world.dev.ring.staging submission.slot :=
    Request.unstage_congr (staged.single submission (List.mem_of_getElem? listed))
      (abstracts.slotBytes_oldest staged listed (Log.index_lt ready.oldest))
  refine ⟨entry, ?_⟩
  simp only [Parties.harvestStep, atTaken, isTag, entry]
  simp only [Submission.entry, World.answer, filled, completionOf]
  rfl

/-- The harvester copies the data, upon which the request is taken. -/
theorem takes (abstracts : Abstracts model parties world) (staged : world.Staged model initial)
    (atTaken : parties.harvesting = .taken (completionOf execution))
    (ready : Ready world parties.polling.owed execution)
    (listed : world.submitted[world.consumed]? = some submission)
    (entry : parties.dev.tags submission.tag = submission.entry) :
    Abstracts model
      { parties with
        harvesting := .filled submission.tag
          (world.answer submission.rq submission.entry.cmd execution.result) }
      (world.answered submission.tag submission.slot
        (world.answer submission.rq submission.entry.cmd execution.result)) := by
  have live := World.mem_live (le_refl _) listed
  have published := ready.published
  have marked := staged.owned.slots.marked submission live
  have worldEntry := staged.owned.coherent.tags.entries submission live
  have apart : ∀ {queued}, parties.queueing.submission? = some queued →
      queued.slot ≠ submission.slot ∧ queued.tag ≠ submission.tag :=
    abstracts.apart_of_live staged (le_refl _) listed
  generalize world.answer submission.rq submission.entry.cmd execution.result = completed
  have newTag : (world.answered submission.tag submission.slot completed).dev.tags =
      update world.dev.tags submission.tag
        { submission.entry with rq := some completed.rq, state := .ended } := by
    simp only [World.answered, blkMqEndRequest, worldEntry]
  have newSlot : ((world.answered submission.tag submission.slot completed).dev.tags
      submission.tag).cmd.stagingSlot = submission.slot := by
    rw [newTag, Function.update_self]
    rfl
  rcases parties with ⟨dev, engine, queueing, polling, harvesting, ended⟩
  subst atTaken
  refine { abstracts with
    compReadIdx := abstracts.compReadIdx, behind := ?_, bitmap := ?_, tags := ?_, ended := ?_
    queueing := ⟨?_, abstracts.queueing.room⟩, polling := ?_, harvesting := ?_
    apartTags := ?_, apartSlots := ?_ }
  · change world.consumed + 1 + polling.owed ≤ world.executed.length
    have published := ready.published
    simp only at published
    omega
  · change dev.ring.stagingBitmap = queueing.mark (update
      (update world.dev.ring.stagingBitmap submission.slot false) _ true)
    rw [newSlot, Function.update_idem, ← marked, Function.update_eq_self]
    exact abstracts.bitmap
  · change update dev.tags submission.tag _ = queueing.enter _
    rw [newTag, Queueing.enter_update _ _ fun isQueued => (apart isQueued).2, entry]
    exact congrArg
      (fun tags : ℕ → TagEntry => update tags submission.tag
        { submission.entry with rq := some completed.rq, state := .ended }) abstracts.tags
  · have before : world.harvests = ended ++ [] := abstracts.ended
    rw [World.harvests_answered, before, List.append_nil]
    rfl
  · intro queued isQueued
    have unsent := abstracts.queueing.unsent isQueued
    refine ⟨unsent.inRange, ?_, unsent.inside, ?_, unsent.single⟩
    · rw [newTag, Function.update_of_ne (apart isQueued).2]
      exact unsent.notStarted
    · exact (Function.update_of_ne (apart isQueued).1 _ _).trans unsent.free
  · exact abstracts.polling.frame (fun isListed => isListed) rfl rfl rfl (fun _ => rfl)
  · refine .filled rfl ?_ ?_
    · rw [entry]
      rfl
    · rw [newSlot]
      exact Function.update_self _ _ _
  · rintro queued ending isQueued ⟨⟩
    exact (apart isQueued).2
  · rintro queued tag isQueued ⟨⟩
    rw [newSlot]
    exact (apart isQueued).1

/-- The slot of the request which is being ended is freed. -/
theorem frees (abstracts : Abstracts model parties world) {tag : ℕ} {completed : Completed}
    (atFilled : parties.harvesting = .filled tag completed)
    (started : (parties.dev.tags tag).state = .started)
    (free : world.dev.ring.stagingBitmap (world.dev.tags tag).cmd.stagingSlot = false) :
    Abstracts model
      { parties.setRing
          (duvmFreeStagingSlot parties.dev.ring (parties.dev.tags tag).cmd.stagingSlot) with
        harvesting := .freed tag completed } world := by
  rcases parties with ⟨dev, engine, queueing, polling, harvesting, ended⟩
  subst atFilled
  have apartTag : ∀ {queued}, queueing.submission? = some queued → queued.tag ≠ tag :=
    fun isQueued => abstracts.apartTags isQueued rfl
  have apartSlot : ∀ {queued}, queueing.submission? = some queued →
      queued.slot ≠ (world.dev.tags tag).cmd.stagingSlot :=
    fun isQueued => abstracts.apartSlots isQueued rfl
  have sameSlot : (dev.tags tag).cmd.stagingSlot = (world.dev.tags tag).cmd.stagingSlot := by
    have settled := congrFun abstracts.tags tag
    rw [Queueing.enter_apply world.dev.tags apartTag] at settled
    simp only [Harvesting.settle, Function.update_self] at settled
    rw [← settled]
  refine { abstracts with
    bitmap := ?_, harvesting := .freed rfl started, apartSlots := by simp [Harvesting.held?] }
  have marked : dev.ring.stagingBitmap = queueing.mark (update world.dev.ring.stagingBitmap
      (world.dev.tags tag).cmd.stagingSlot true) := abstracts.bitmap
  change update dev.ring.stagingBitmap (dev.tags tag).cmd.stagingSlot false =
    queueing.mark world.dev.ring.stagingBitmap
  rw [sameSlot, marked, ← Queueing.mark_update _ _ apartSlot, Function.update_idem, ← free,
    Function.update_eq_self]

theorem harvestStep (abstracts : Abstracts model parties world)
    (staged : world.Staged model initial) (stepped : parties.harvestStep = some after) :
    ∃ next : World Engine, next.Staged model initial ∧ Abstracts model after next := by
  have rings := staged.owned.coherent.rings
  have compReadIdx : parties.harvesting.ahead = 0 →
      parties.dev.ring.compReadIdx = world.dev.ring.compReadIdx := by
    intro notAhead
    rw [abstracts.compReadIdx, notAhead, rings.compReadIdx]
    rfl
  cases abstracts.harvesting with
  | idle atIdle =>
      simp only [Parties.harvestStep, atIdle] at stepped
      refine ⟨world, staged, ?_⟩
      split at stepped
      · cases stepped
        exact abstracts
      · next visible =>
          cases stepped
          rcases abstracts.exists_ready (by rw [atIdle]; rfl) visible with ⟨execution, ready⟩
          rw [compReadIdx (by rw [atIdle]; rfl)]
          rcases parties with ⟨dev, engine, queueing, polling, harvesting, ended⟩
          subst atIdle
          exact { abstracts with harvesting := .found rfl ready }
  | found atFound ready =>
      simp only [Parties.harvestStep, atFound] at stepped
      cases stepped
      refine ⟨world, staged, ?_⟩
      rw [abstracts.completion_eq staged ready]
      rcases parties with ⟨dev, engine, queueing, polling, harvesting, ended⟩
      subst atFound
      exact { abstracts with harvesting := .copied rfl ready }
  | copied atCopied ready =>
      simp only [Parties.harvestStep, atCopied] at stepped
      cases stepped
      refine ⟨world, staged, ?_⟩
      rcases rings.powerOfTwo with ⟨order, isPower⟩
      rcases parties with ⟨dev, engine, queueing, polling, harvesting, ended⟩
      subst atCopied
      refine { abstracts with compReadIdx := ?_, harvesting := .taken rfl ready }
      change RingBuffer.advance dev.ring.capacity world.dev.ring.compReadIdx =
        (world.consumed + 1) % world.dev.ring.capacity
      rw [abstracts.capacity, rings.compReadIdx, isPower, RingBuffer.advance_mod]
  | taken atTaken ready =>
      rcases rings.answers _ _ ready.oldest with ⟨submission, listed, request⟩
      rcases abstracts.harvestStep_of_taken staged atTaken ready listed request with
        ⟨entry, filled⟩
      rw [filled] at stepped
      cases stepped
      exact ⟨_, staged.takes listed ready.oldest,
        abstracts.takes staged atTaken ready listed entry⟩
  | filled atFilled started free =>
      simp only [Parties.harvestStep, atFilled] at stepped
      cases stepped
      exact ⟨world, staged, abstracts.frees atFilled started free⟩
  | @freed tag completed atFreed started =>
      simp only [Parties.harvestStep, atFreed] at stepped
      cases stepped
      refine ⟨world, staged, ?_⟩
      rcases parties with ⟨dev, engine, queueing, polling, harvesting, ended⟩
      subst atFreed
      refine { abstracts with
        ended := ?_, harvesting := .idle rfl
        apartTags := by simp [Harvesting.ending?], apartSlots := by simp [Harvesting.held?] }
      exact abstracts.ended.trans (List.append_nil _).symm

theorem step (abstracts : Abstracts model parties world) (staged : world.Staged model initial)
    {action : PartyAction Env}
    (single : ∀ tag rq, action = .queueRq tag rq → rq.SinglePage)
    (stepped : parties.step model action = some after) :
    ∃ next : World Engine, next.Staged model initial ∧ Abstracts model after next := by
  cases action with
  | queueRq tag rq =>
      cases atQueue : parties.queueing with
      | idle =>
          simp only [Parties.step, atQueue, Option.ite_none_right_eq_some,
            Option.some.injEq] at stepped
          rcases stepped with ⟨⟨inRange, notStarted⟩, rfl⟩
          exact ⟨world, staged, abstracts.enter atQueue inRange notStarted (single tag rq rfl)⟩
      | allocated | staged | started | tested | written | refused | released =>
          simp only [Parties.step, atQueue] at stepped
          cases stepped
  | queueing => exact abstracts.queueStep staged stepped
  | polling env => exact abstracts.pollStep staged stepped
  | harvesting => exact abstracts.harvestStep staged stepped

end Abstracts

theorem abstracts_start (model : EngineModel Env Engine) {ringEntries : ℕ} {dev : DuvmDevice}
    (initialised : duvmInit ringEntries = .ok dev) (engine : Engine) :
    ((World.start dev engine).connected true).Staged model engine ∧
      Abstracts model (.start dev engine) ((World.start dev engine).connected true) := by
  have opened : World.Stepped model (World.start dev engine) (.ctlOpen true)
      ((World.start dev engine).connected true) := .opened
  have pages : World.PagesOnly (.ctlOpen true : Action Env) := trivial
  have staged := (World.staged_start model initialised engine).stepped pages opened
  have rings := staged.owned.coherent.rings
  refine ⟨staged, ?_⟩
  exact
    { queueDepth := rfl, capacity := rfl, stagingPages := rfl, online := rfl, requests := rfl
      reqWriteIdx := rfl, reqReadIdx := rfl, completions := rfl
      compWriteIdx := rings.compWriteIdx, compReadIdx := rings.compReadIdx
      behind := le_refl _, staging := rfl, bitmap := rfl, tags := rfl, ended := rfl
      queueing := ⟨by simp [Parties.start, Queueing.submission?],
        by simp [Parties.start, Queueing.cell?]⟩
      polling := .idle rfl rfl, harvesting := .idle rfl
      apartTags := by simp [Parties.start, Queueing.submission?]
      apartSlots := by simp [Parties.start, Queueing.submission?] }

/-- Requests carry one page. -/
def PartyAction.PagesOnly : PartyAction Env → Prop
  | .queueRq _ rq => rq.SinglePage
  | .queueing | .polling _ | .harvesting => True

/-- Every interleaving of the accesses is in the middle of a state of the system. -/
theorem abstracts_of_run {ringEntries : ℕ} {dev : DuvmDevice} {engine : Engine}
    {actions : List (PartyAction Env)} {reached : Parties Engine}
    (initialised : duvmInit ringEntries = .ok dev)
    (pages : ∀ action ∈ actions, action.PagesOnly)
    (ran : Transition.run (Parties.step model) (.start dev engine) actions = some reached) :
    ∃ world : World Engine, world.Staged model engine ∧ Abstracts model reached world := by
  have along : Transition.Along (Parties.step model) (fun _ action => action.PagesOnly)
      (.start dev engine) actions := by
    apply Transition.along_of_forall
    rintro before action after middle rfl _
    exact pages action (by simp)
  refine @Transition.run_induction _ _ (Parties.step model) (fun _ action => action.PagesOnly)
    (fun parties => ∃ world : World Engine, world.Staged model engine ∧
      Abstracts model parties world) _ _ _
    ⟨_, abstracts_start model initialised engine⟩ ?_ along ran
  rintro current action next ⟨world, staged, abstracts⟩ good stepped
  refine abstracts.step staged ?_ stepped
  rintro tag rq rfl
  exact good

end Steps

end Duvm.Kmod
