import Duvm.Kmod.System
import Mathlib.Data.List.Nodup
import Mathlib.Data.List.Perm.Subperm

/-!
# The invariant of the rings and the tags

Every index of the shared header is the count of what the party which owns it
has handled, modulo the capacity; the cells between two indices hold the
requests not yet executed and the completions not yet harvested; and the tag
table holds the requests in flight. This is kept by every action, timeouts and
changes of connection included. Two facts follow which no single party checks:
a completion always overwrites a cell which has been read, and the completion
which the harvester takes is the answer to the oldest request in flight.
-/

namespace Duvm.Kmod

open Function (update)
open Duvm.Daemon

universe u v

/-- The rings agree with the history. -/
structure RingsAgree (ring : DuvmRing) (submitted : List Submission)
    (executed : List Execution) (consumed : ℕ) : Prop where
  powerOfTwo : ∃ order, ring.capacity = 2 ^ order
  consumedLe : consumed ≤ executed.length
  executedLe : executed.length ≤ submitted.length
  cellFree : submitted.length < executed.length + ring.capacity
  reqWriteIdx : ring.reqWriteIdx = submitted.length % ring.capacity
  reqReadIdx : ring.reqReadIdx = executed.length % ring.capacity
  compWriteIdx : ring.compWriteIdx = executed.length % ring.capacity
  compReadIdx : ring.compReadIdx = consumed % ring.capacity
  requests : RingBuffer.Window ring.requests ring.capacity executed.length
    (submitted.map Submission.ring)
  completions : RingBuffer.Window ring.completions ring.capacity consumed
    (executed.map completionOf)
  answers : ∀ (index : ℕ) (execution : Execution), executed[index]? = some execution →
    ∃ submission : Submission, submitted[index]? = some submission ∧
      execution.request = submission.ring

namespace RingsAgree

variable {ring : DuvmRing} {submitted : List Submission} {executed : List Execution}
  {consumed : ℕ}

/-- The request ring, which the daemon has read up to the last request executed. -/
theorem requestRing (agree : RingsAgree ring submitted executed consumed) :
    RingBuffer.Agrees ring.requests ring.capacity ring.reqReadIdx ring.reqWriteIdx
      executed.length (submitted.map Submission.ring) where
  powerOfTwo := agree.powerOfTwo
  ordered := by simpa using agree.executedLe
  readIdx_eq := agree.reqReadIdx
  writeIdx_eq := by simpa using agree.reqWriteIdx
  window := agree.requests

/-- The completion ring, which the harvester has read up to the last completion taken. -/
theorem completionRing (agree : RingsAgree ring submitted executed consumed) :
    RingBuffer.Agrees ring.completions ring.capacity ring.compReadIdx ring.compWriteIdx
      consumed (executed.map completionOf) where
  powerOfTwo := agree.powerOfTwo
  ordered := by simpa using agree.consumedLe
  readIdx_eq := agree.compReadIdx
  writeIdx_eq := by simpa using agree.compWriteIdx
  window := agree.completions

/-- What only the kernel sees, and the staging bytes, are not part of the rings. -/
theorem reframe (agree : RingsAgree ring submitted executed consumed) (staging : ByteMemory)
    (bitmap : ℕ → Bool) (connection : Bool) :
    RingsAgree
      { ring with staging := staging, stagingBitmap := bitmap, daemonConnected := connection }
      submitted executed consumed where
  powerOfTwo := agree.powerOfTwo
  consumedLe := agree.consumedLe
  executedLe := agree.executedLe
  cellFree := agree.cellFree
  reqWriteIdx := agree.reqWriteIdx
  reqReadIdx := agree.reqReadIdx
  compWriteIdx := agree.compWriteIdx
  compReadIdx := agree.compReadIdx
  requests := agree.requests
  completions := agree.completions
  answers := agree.answers

theorem submit (agree : RingsAgree ring submitted executed consumed)
    (room : RingBuffer.advance ring.capacity ring.reqWriteIdx ≠ ring.reqReadIdx)
    (submission : Submission) :
    RingsAgree
      { ring with
        requests := update ring.requests ring.reqWriteIdx submission.ring
        reqWriteIdx := RingBuffer.advance ring.capacity ring.reqWriteIdx }
      (submitted ++ [submission]) executed consumed := by
  have close : (submitted.map Submission.ring).length < executed.length + ring.capacity := by
    simpa using agree.cellFree
  have spare := (agree.requestRing.advance_ne_iff close).mp room
  have pushed := agree.requestRing.push close submission.ring
  refine { agree with
    executedLe := ?_, cellFree := ?_, reqWriteIdx := ?_, requests := ?_, answers := ?_ }
  · rw [List.length_append]
    exact agree.executedLe.trans (Nat.le_add_right _ _)
  · simpa using spare
  · simpa using pushed.writeIdx_eq
  · simpa using pushed.window
  · intro index execution listed
    rcases agree.answers index execution listed with ⟨answered, found, request⟩
    exact ⟨answered, Log.keep found, request⟩

/-- The daemon takes the oldest request which has not been executed. -/
theorem exists_waiting (agree : RingsAgree ring submitted executed consumed)
    (pending : ring.reqReadIdx ≠ ring.reqWriteIdx) :
    ∃ submission, submitted[executed.length]? = some submission ∧
      ring.requests ring.reqReadIdx = submission.ring := by
  have waiting := agree.requestRing.getElem?_of_ne pending
  rw [List.getElem?_map, Option.map_eq_some_iff] at waiting
  rcases waiting with ⟨submission, found, cell⟩
  exact ⟨submission, found, cell.symm⟩

theorem serve (agree : RingsAgree ring submitted executed consumed)
    (pending : ring.reqReadIdx ≠ ring.reqWriteIdx)
    (unread : executed.length < consumed + ring.capacity) {execution : Execution}
    (request : execution.request = ring.requests ring.reqReadIdx) :
    RingsAgree (publish ring execution.request execution.result) submitted
      (executed ++ [execution]) consumed := by
  rcases agree.exists_waiting pending with ⟨submission, waiting, cell⟩
  have inside : executed.length < submitted.length := Log.index_lt waiting
  have below := agree.cellFree
  have behind := agree.consumedLe
  have taken := agree.requestRing.take (by simpa using inside)
  have pushed := agree.completionRing.push (by simpa using unread) (completionOf execution)
  refine { powerOfTwo := agree.powerOfTwo, reqWriteIdx := agree.reqWriteIdx,
           compReadIdx := agree.compReadIdx, consumedLe := ?_, executedLe := ?_,
           cellFree := ?_, reqReadIdx := ?_, compWriteIdx := ?_, requests := ?_,
           completions := ?_, answers := ?_ }
  · simp only [List.length_append, List.length_singleton]
    omega
  · simp only [List.length_append, List.length_singleton]
    omega
  · simp only [List.length_append, List.length_singleton, publish]
    omega
  · simpa [publish] using taken.readIdx_eq
  · simpa [publish] using pushed.writeIdx_eq
  · simpa [publish] using taken.window
  · simpa [publish, completionOf] using pushed.window
  · intro index found listed
    rcases Log.old_or_new listed with old | ⟨rfl, rfl⟩
    · exact agree.answers index found old
    · exact ⟨submission, waiting, request.trans cell⟩

/-- The harvester takes the completion of the oldest request in flight. -/
theorem exists_answered (agree : RingsAgree ring submitted executed consumed)
    (pending : ring.compReadIdx ≠ ring.compWriteIdx) :
    ∃ submission execution, submitted[consumed]? = some submission ∧
      executed[consumed]? = some execution ∧ execution.request = submission.ring ∧
      ring.completions ring.compReadIdx = completionOf execution := by
  have ready := agree.completionRing.getElem?_of_ne pending
  rw [List.getElem?_map, Option.map_eq_some_iff] at ready
  rcases ready with ⟨execution, published, cell⟩
  rcases agree.answers _ _ published with ⟨submission, found, request⟩
  exact ⟨submission, execution, found, published, request, cell.symm⟩

theorem take (agree : RingsAgree ring submitted executed consumed)
    (pending : ring.compReadIdx ≠ ring.compWriteIdx) :
    RingsAgree
      { ring with compReadIdx := RingBuffer.advance ring.capacity ring.compReadIdx }
      submitted executed (consumed + 1) := by
  rcases agree.exists_answered pending with ⟨_, _, _, published, _, _⟩
  have ready : consumed < executed.length := Log.index_lt published
  have taken := agree.completionRing.take (by simpa using ready)
  exact { agree with
    consumedLe := ready, compReadIdx := taken.readIdx_eq, completions := taken.window }

end RingsAgree

/-- The tag table agrees with the requests in flight. -/
structure TagsAgree (queueDepth : ℕ) (tags : ℕ → TagEntry) (live : List Submission) : Prop where
  inRange : ∀ submission ∈ live, submission.tag < queueDepth
  entries : ∀ submission ∈ live, tags submission.tag = submission.entry
  distinct : (live.map Submission.tag).Nodup
  started : ∀ tag, (tags tag).state = .started → ∃ submission ∈ live, submission.tag = tag

namespace TagsAgree

variable {queueDepth : ℕ} {tags : ℕ → TagEntry} {live : List Submission}

variable {submission : Submission}

theorem state_eq_started (agree : TagsAgree queueDepth tags live) (inFlight : submission ∈ live) :
    (tags submission.tag).state = .started := by
  rw [agree.entries submission inFlight]
  rfl

/-- There are no more requests in flight than tags. -/
theorem length_le (agree : TagsAgree queueDepth tags live) : live.length ≤ queueDepth := by
  have included : live.map Submission.tag ⊆ List.range queueDepth := by
    intro tag listed
    rcases List.mem_map.mp listed with ⟨submission, inFlight, rfl⟩
    exact List.mem_range.mpr (agree.inRange submission inFlight)
  have bounded := (List.subperm_of_subset agree.distinct included).length_le
  simpa using bounded

/-- A tag which is not in flight may change to anything which is not in flight. -/
theorem settle (agree : TagsAgree queueDepth tags live) {tag : ℕ} {entry : TagEntry}
    (notStarted : (tags tag).state ≠ .started) (stillNot : entry.state ≠ .started) :
    TagsAgree queueDepth (update tags tag entry) live where
  inRange := agree.inRange
  distinct := agree.distinct
  entries := by
    intro submission inFlight
    have other : submission.tag ≠ tag := by
      rintro rfl
      exact notStarted (agree.state_eq_started inFlight)
    rw [Function.update_of_ne other]
    exact agree.entries submission inFlight
  started := by
    intro other isStarted
    by_cases same : other = tag
    · subst same
      rw [Function.update_self] at isStarted
      exact absurd isStarted stillNot
    · rw [Function.update_of_ne same] at isStarted
      exact agree.started other isStarted

theorem submit (agree : TagsAgree queueDepth tags live) (inRange : submission.tag < queueDepth)
    (notStarted : (tags submission.tag).state ≠ .started) :
    TagsAgree queueDepth (update tags submission.tag submission.entry)
      (live ++ [submission]) := by
  have absent : ∀ other ∈ live, other.tag ≠ submission.tag := by
    intro other inFlight same
    exact notStarted (same ▸ agree.state_eq_started inFlight)
  refine { inRange := ?_, entries := ?_, distinct := ?_, started := ?_ }
  · intro other inFlight
    rcases List.mem_append.mp inFlight with old | new
    · exact agree.inRange other old
    · rw [List.mem_singleton.mp new]
      exact inRange
  · intro other inFlight
    rcases List.mem_append.mp inFlight with old | new
    · rw [Function.update_of_ne (absent other old)]
      exact agree.entries other old
    · rw [List.mem_singleton.mp new, Function.update_self]
  · rw [List.map_append, List.nodup_append]
    refine ⟨agree.distinct, List.nodup_singleton _, ?_⟩
    intro left oldTag right newTag same
    rcases List.mem_map.mp oldTag with ⟨other, inFlight, rfl⟩
    simp only [List.map_cons, List.map_nil, List.mem_singleton] at newTag
    exact absent other inFlight (same.trans newTag)
  · intro tag isStarted
    by_cases same : tag = submission.tag
    · exact ⟨submission, by simp, same.symm⟩
    · rw [Function.update_of_ne same] at isStarted
      rcases agree.started tag isStarted with ⟨other, inFlight, rfl⟩
      exact ⟨other, List.mem_append_left _ inFlight, rfl⟩

/-- Ending the oldest request takes it out of flight. -/
theorem answer {rest : List Submission} (agree : TagsAgree queueDepth tags (submission :: rest))
    {entry : TagEntry} (ended : entry.state ≠ .started) :
    TagsAgree queueDepth (update tags submission.tag entry) rest := by
  have absent : ∀ other ∈ rest, other.tag ≠ submission.tag := by
    intro other inFlight same
    have distinct := agree.distinct
    rw [List.map_cons, List.nodup_cons] at distinct
    exact distinct.1 (List.mem_map.mpr ⟨other, inFlight, same⟩)
  refine { inRange := ?_, entries := ?_, distinct := ?_, started := ?_ }
  · intro other inFlight
    exact agree.inRange other (List.mem_cons_of_mem _ inFlight)
  · intro other inFlight
    rw [Function.update_of_ne (absent other inFlight)]
    exact agree.entries other (List.mem_cons_of_mem _ inFlight)
  · have distinct := agree.distinct
    rw [List.map_cons, List.nodup_cons] at distinct
    exact distinct.2
  · intro tag isStarted
    by_cases same : tag = submission.tag
    · subst same
      rw [Function.update_self] at isStarted
      exact absurd isStarted ended
    · rw [Function.update_of_ne same] at isStarted
      rcases agree.started tag isStarted with ⟨other, inFlight, rfl⟩
      rcases List.mem_cons.mp inFlight with rfl | later
      · exact absurd rfl same
      · exact ⟨other, later, rfl⟩

end TagsAgree

namespace World

variable {Env : Type u} {Engine : Type v}

/-- The device agrees with its history. -/
structure Coherent (world : World Engine) : Prop where
  rings : RingsAgree world.dev.ring world.submitted world.executed world.consumed
  tags : TagsAgree world.dev.queueDepth world.dev.tags world.live
  depth : world.dev.queueDepth ≤ world.dev.ring.capacity

theorem coherent_start {ringEntries : ℕ} {dev : DuvmDevice}
    (initialised : duvmInit ringEntries = .ok dev) (engine : Engine) :
    (start dev engine).Coherent := by
  rcases duvmInit_eq_ok initialised with ⟨⟨order, rfl⟩, rfl⟩
  refine { rings := ?_, tags := ?_, depth := le_refl _ }
  · refine { powerOfTwo := ⟨order, rfl⟩, consumedLe := le_refl _, executedLe := le_refl _,
             cellFree := by simp [start, duvmRingInit],
             reqWriteIdx := by simp [start, duvmRingInit],
             reqReadIdx := by simp [start, duvmRingInit],
             compWriteIdx := by simp [start, duvmRingInit],
             compReadIdx := by simp [start, duvmRingInit],
             requests := RingBuffer.window_nil, completions := RingBuffer.window_nil,
             answers := by simp [start] }
  · refine { inRange := by simp [live, start], entries := by simp [live, start],
             distinct := by simp [live, start], started := by simp [start] }

variable {world : World Engine}

/-- The oldest request in flight, once the harvester finds a completion. -/
theorem Coherent.exists_oldest (coherent : world.Coherent)
    (pending : world.dev.ring.compReadIdx ≠ world.dev.ring.compWriteIdx) :
    ∃ submission execution, world.submitted[world.consumed]? = some submission ∧
      world.executed[world.consumed]? = some execution ∧
      execution.request = submission.ring ∧
      world.dev.ring.completions world.dev.ring.compReadIdx = completionOf execution ∧
      world.live = submission :: world.submitted.drop (world.consumed + 1) ∧
      world.dev.tags submission.tag = submission.entry := by
  rcases coherent.rings.exists_answered pending with
    ⟨submission, execution, found, published, request, cell⟩
  rcases List.getElem?_eq_some_iff.mp found with ⟨inside, isSubmission⟩
  have oldest : world.live = submission :: world.submitted.drop (world.consumed + 1) := by
    rw [live, List.drop_eq_getElem_cons inside, isSubmission]
  refine ⟨submission, execution, found, published, request, cell, oldest, ?_⟩
  exact coherent.tags.entries submission (by rw [oldest]; exact List.mem_cons_self)

/-- Every completion names a request in flight. -/
theorem Coherent.not_skipped (coherent : world.Coherent)
    (pending : world.dev.ring.compReadIdx ≠ world.dev.ring.compWriteIdx)
    (unknown : ∀ tag, tag < world.dev.queueDepth →
      (world.dev.ring.completions world.dev.ring.compReadIdx).seq = tag + 1 →
      (world.dev.tags tag).rq = none) : False := by
  rcases coherent.exists_oldest pending with
    ⟨submission, execution, _, _, request, cell, oldest, entry⟩
  have inRange := coherent.tags.inRange submission (by rw [oldest]; exact List.mem_cons_self)
  have absent := unknown submission.tag inRange (by rw [cell, completionOf, request]; rfl)
  rw [entry] at absent
  simp [Submission.entry] at absent

/-- The harvester ends the oldest request in flight with the result of its execution. -/
theorem Coherent.answered_oldest (coherent : world.Coherent) {tag : ℕ} {rq : Request}
    (pending : world.dev.ring.compReadIdx ≠ world.dev.ring.compWriteIdx)
    (seq : (world.dev.ring.completions world.dev.ring.compReadIdx).seq = tag + 1)
    (listed : (world.dev.tags tag).rq = some rq) :
    ∃ submission execution, world.submitted[world.consumed]? = some submission ∧
      world.executed[world.consumed]? = some execution ∧
      execution.request = submission.ring ∧
      world.live = submission :: world.submitted.drop (world.consumed + 1) ∧
      tag = submission.tag ∧ rq = submission.rq ∧
      (world.dev.tags tag).cmd = submission.entry.cmd ∧
      (world.dev.ring.completions world.dev.ring.compReadIdx).result = execution.result := by
  rcases coherent.exists_oldest pending with
    ⟨submission, execution, found, published, request, cell, oldest, entry⟩
  have sameTag : tag = submission.tag := by
    rw [cell, completionOf, request] at seq
    exact (Nat.succ.inj seq).symm
  subst sameTag
  rw [entry] at listed
  refine ⟨submission, execution, found, published, request, oldest, rfl, ?_, ?_, ?_⟩
  · exact (Option.some.inj listed).symm
  · rw [entry]
  · rw [cell, completionOf]

theorem Coherent.executed_lt (coherent : world.Coherent)
    (pending : world.dev.ring.reqReadIdx ≠ world.dev.ring.reqWriteIdx) :
    world.executed.length < world.consumed + world.dev.ring.capacity := by
  rcases coherent.rings.exists_waiting pending with ⟨_, waiting, _⟩
  have inside := Log.index_lt waiting
  have bounded := coherent.tags.length_le
  have depth := coherent.depth
  rw [live, List.length_drop] at bounded
  omega

theorem Coherent.stepped {model : EngineModel Env Engine} {next : World Engine}
    {action : Action Env} (coherent : world.Coherent) (stepped : Stepped model world action next) :
    next.Coherent := by
  have rings := coherent.rings
  have tags := coherent.tags
  have depth := coherent.depth
  cases stepped with
  | unchanged => exact coherent
  | refused notStarted =>
      exact ⟨rings.reframe _ _ _, tags.settle notStarted (by simp), depth⟩
  | accepted submission _ inRange notStarted _ _ room =>
      refine ⟨(rings.submit room submission).reframe _ _ _, ?_, depth⟩
      have behind := rings.consumedLe.trans rings.executedLe
      have live_eq : (world.accepted submission).live = world.live ++ [submission] :=
        List.drop_append_of_le_length behind
      rw [live_eq]
      exact tags.submit inRange notStarted
  | written _ notStarted =>
      exact ⟨rings.reframe _ _ _, tags.settle notStarted (by simp), depth⟩
  | read _ notStarted =>
      exact ⟨rings.reframe _ _ _, tags.settle notStarted (by simp), depth⟩
  | served execution pending request =>
      have unread := coherent.executed_lt pending
      have framed := rings.reframe (execution.fill world.dev.ring.staging)
        world.dev.ring.stagingBitmap world.dev.ring.daemonConnected
      exact ⟨framed.serve pending unread request, tags, depth⟩
  | skipped pending unknown => exact (coherent.not_skipped pending unknown).elim
  | answered pending seq listed =>
      rcases coherent.answered_oldest pending seq listed with
        ⟨submission, _, _, _, _, oldest, rfl, _, _, _⟩
      rw [oldest] at tags
      exact ⟨(rings.take pending).reframe _ _ _, tags.answer (by simp), depth⟩
  | timedOut => exact ⟨rings.reframe _ _ _, tags, depth⟩
  | opened => exact ⟨rings.reframe _ _ _, tags, depth⟩
  | released => exact ⟨rings.reframe _ _ _, tags, depth⟩

/-- The device agrees with its history in every reachable state. -/
theorem coherent_of_run {model : EngineModel Env Engine} {ringEntries : ℕ} {dev : DuvmDevice}
    {engine : Engine} {actions : List (Action Env)} {reached : World Engine}
    (initialised : duvmInit ringEntries = .ok dev)
    (ran : Transition.run (step model) (start dev engine) actions = some reached) :
    reached.Coherent := by
  refine Transition.run_invariant (coherent_start initialised engine) ?_ ran
  intro world action next coherent stepped
  exact coherent.stepped (stepped_of_step stepped)

end World

end Duvm.Kmod
