import Duvm.Kmod.Accesses
import Duvm.Kmod.Matching

/-!
# The parties in the middle of their calls

Three parties which are in the middle of their calls, and a state of `Kmod.System`, in
which every call is made at once. A request enters that state when `req_write_idx` is
written, the daemon executes it when `req_read_idx` is written, and the harvester
takes its completion when it copies the data. What a party has done before, or has
still to do, is laid over the state in places which are its own: `Abstracts` says
how.
-/

namespace Duvm.Kmod

open Function (update)
open Duvm.Daemon

universe u v

section Slots

/-- A READ is filled from its slot only. -/
theorem unstageSegments_of_read_eq {left right : ByteMemory} {segments : List BioVec} {address : ℕ}
    (same : left.read address (segments.flatMap BioVec.data).length =
      right.read address (segments.flatMap BioVec.data).length) :
    unstageSegments left address segments = unstageSegments right address segments := by
  induction segments generalizing address with
  | nil => rfl
  | cons bvec rest ih =>
      rw [List.flatMap_cons, List.length_append, ByteMemory.read_add, ByteMemory.read_add] at same
      rcases List.append_inj same (by simp) with ⟨head, tail⟩
      rw [unstageSegments, unstageSegments, head, ih tail]

theorem Request.unstage_congr {rq : Request} (single : rq.SinglePage) {left right : ByteMemory}
    {slot : ℕ} (same : slotBytes left slot = slotBytes right slot) :
    rq.unstage left slot = rq.unstage right slot := by
  have isPage : (rq.segments.flatMap BioVec.data).length = PAGE_SIZE := single
  rw [unstage, unstage, unstageSegments_of_read_eq]
  rw [isPage]
  exact same

theorem Request.stage_fill {rq : Request} (single : rq.SinglePage) {execution : Execution}
    {slot : ℕ} (different : execution.request.stagingSlot ≠ slot) (staging : ByteMemory) :
    rq.stage (execution.fill staging) slot = execution.fill (rq.stage staging slot) := by
  cases direction : rq.dir with
  | read => rw [stage_of_read direction, stage_of_read direction]
  | write =>
      rw [stage_of_write direction, stage_of_write direction]
      unfold Execution.fill
      cases execution.returned with
      | none => rfl
      | some page =>
          apply ByteMemory.write_comm
          have apart := Region.item_apart 0 PAGE_SIZE different
          have isPage : rq.bytes.length = PAGE_SIZE := single
          rw [PageBuffer.length_toList, isPage]
          simpa only [Region.Apart, Region.item, Nat.zero_add] using apart

theorem toList_eq_slotBytes_iff {page : PageBuffer} {staging : ByteMemory} {slot : ℕ} :
    page.toList = slotBytes staging slot ↔ page = readPage staging (slot * PAGE_SIZE) := by
  rw [slotBytes, ← toList_readPage]
  exact Vector.toList_inj

end Slots

theorem RingsAgree.take_of_lt {ring : DuvmRing} {submitted : List Submission}
    {executed : List Execution} {consumed : ℕ}
    (agree : RingsAgree ring submitted executed consumed) (ready : consumed < executed.length) :
    RingsAgree { ring with compReadIdx := RingBuffer.advance ring.capacity ring.compReadIdx }
      submitted executed (consumed + 1) := by
  have taken := agree.completionRing.take (by simpa using ready)
  exact { agree with
    consumedLe := ready, compReadIdx := taken.readIdx_eq, completions := taken.window }

/-- The harvester takes a completion which is there, whether it can be seen or not. -/
theorem World.Staged.takes {Env : Type u} {Engine : Type v} {model : EngineModel Env Engine}
    {initial : Engine} {world : World Engine} (staged : world.Staged model initial)
    {submission : Submission} {execution : Execution}
    (listed : world.submitted[world.consumed]? = some submission)
    (executed : world.executed[world.consumed]? = some execution) :
    (world.answered submission.tag submission.slot
      (world.answer submission.rq submission.entry.cmd execution.result)).Staged model initial := by
  rcases List.getElem?_eq_some_iff.mp listed with ⟨inside, isSubmission⟩
  have oldest : world.live = submission :: world.submitted.drop (world.consumed + 1) := by
    rw [World.live, List.drop_eq_getElem_cons inside, isSubmission]
  have rings := staged.owned.coherent.rings.take_of_lt (Log.index_lt executed)
  have tags := staged.owned.coherent.tags
  have slots := staged.owned.slots
  have holders := staged.owned.holders
  rw [oldest] at tags slots holders
  refine staged.harvest listed executed ⟨⟨rings.reframe _ _ _, ?_, ?_⟩, ?_, ?_⟩
  · exact tags.answer (by simp)
  · exact staged.owned.coherent.depth
  · exact slots.answer
  · exact holders.answer

/-- The request which is being submitted. -/
def Queueing.submission? : Queueing → Option Submission
  | .idle => none
  | .allocated submission | .staged submission | .started submission | .tested submission _
  | .written submission _ | .refused submission | .released submission => some submission

/-- The staging area with what was copied for the request. -/
def Queueing.stage (staging : ByteMemory) : Queueing → ByteMemory
  | .idle | .allocated _ => staging
  | .staged submission | .started submission | .tested submission _ | .written submission _
  | .refused submission | .released submission => submission.rq.stage staging submission.slot

/-- The bitmap with the slot of the request. -/
def Queueing.mark (bitmap : ℕ → Bool) : Queueing → ℕ → Bool
  | .idle | .released _ => bitmap
  | .allocated submission | .staged submission | .started submission | .tested submission _
  | .written submission _ | .refused submission => update bitmap submission.slot true

/-- The tag table with the request. -/
def Queueing.enter (tags : ℕ → TagEntry) : Queueing → ℕ → TagEntry
  | .idle | .allocated _ | .staged _ => tags
  | .started submission | .tested submission _ | .written submission _ | .refused submission
  | .released submission => update tags submission.tag submission.entry

/-- The request ring with the entry of the request. -/
def Queueing.put (requests : ℕ → DuvmRequest) : Queueing → ℕ → DuvmRequest
  | .written submission writeIdx => update requests writeIdx submission.ring
  | .idle | .allocated _ | .staged _ | .started _ | .tested _ _ | .refused _ | .released _ =>
      requests

/-- The cell which the submitter has found free. -/
def Queueing.cell? : Queueing → Option ℕ
  | .tested _ writeIdx | .written _ writeIdx => some writeIdx
  | .idle | .allocated _ | .staged _ | .started _ | .refused _ | .released _ => none

/-- The staging area with the page which was loaded. -/
def Polling.fill (staging : ByteMemory) : Polling → ByteMemory
  | .filled _ execution => execution.fill staging
  | .idle | .pending _ | .fetched _ _ | .executed _ _ | .consumed _ | .written _ _ => staging

/-- How many requests have been consumed and not answered. -/
def Polling.owed : Polling → ℕ
  | .consumed _ | .written _ _ => 1
  | .idle | .pending _ | .fetched _ _ | .executed _ _ | .filled _ _ => 0

/-- The completion ring with the completion which is to be written. -/
def Polling.put (completions : ℕ → DuvmCompletion) (compWrite : ℕ) : Polling → ℕ → DuvmCompletion
  | .consumed execution => update completions compWrite (completionOf execution)
  | .idle | .pending _ | .fetched _ _ | .executed _ _ | .filled _ _ | .written _ _ => completions

/-- How many completions have been passed and not taken. -/
def Harvesting.ahead : Harvesting → ℕ
  | .taken _ => 1
  | .idle | .found _ | .copied _ _ | .filled _ _ | .freed _ _ => 0

/-- The request which is being ended. -/
def Harvesting.ending? : Harvesting → Option Ending
  | .filled tag completed | .freed tag completed => some ⟨.ring, tag, completed⟩
  | .idle | .found _ | .copied _ _ | .taken _ => none

/-- The tag of the request whose slot is to be freed. -/
def Harvesting.held? : Harvesting → Option ℕ
  | .filled tag _ => some tag
  | .idle | .found _ | .copied _ _ | .taken _ | .freed _ _ => none

/-- The bitmap with the slot which is to be freed. -/
def Harvesting.mark (tags : ℕ → TagEntry) (bitmap : ℕ → Bool) : Harvesting → ℕ → Bool
  | .filled tag _ => update bitmap (tags tag).cmd.stagingSlot true
  | .idle | .found _ | .copied _ _ | .taken _ | .freed _ _ => bitmap

/-- The tag table once the request is ended. -/
def Harvesting.settle (tags : ℕ → TagEntry) : Harvesting → ℕ → TagEntry
  | .filled tag completed | .freed tag completed =>
      update tags tag { tags tag with rq := some completed.rq, state := .ended }
  | .idle | .found _ | .copied _ _ | .taken _ => tags

section Places

variable {Env : Type u} {Engine : Type v} {model : EngineModel Env Engine} {initial : Engine}
  {world next : World Engine}

/-- A request which can be submitted. -/
structure Unsent (world : World Engine) (submission : Submission) : Prop where
  inRange : submission.tag < world.dev.queueDepth
  notStarted : (world.dev.tags submission.tag).state ≠ .started
  inside : submission.slot < world.dev.ring.stagingPages
  free : world.dev.ring.stagingBitmap submission.slot = false
  single : submission.rq.SinglePage

structure QueueingAt (world : World Engine) (queueing : Queueing) : Prop where
  unsent : ∀ {submission}, queueing.submission? = some submission → Unsent world submission
  room : ∀ {writeIdx}, queueing.cell? = some writeIdx → writeIdx = world.dev.ring.reqWriteIdx ∧
    world.submitted.length + 1 < world.executed.length + world.dev.ring.capacity

/-- The execution of a request is in the hands of the daemon. -/
structure InHands (model : EngineModel Env Engine) (world : World Engine) (engine : Engine)
    (submission : Submission) (execution : Execution) : Prop where
  next : world.submitted[world.executed.length]? = some submission
  request : execution.request = submission.ring
  executes : Executes model world.engine execution engine
  given : ∀ {page}, execution.given = some page →
    page.toList = slotBytes world.dev.ring.staging submission.slot

inductive PollingAt (model : EngineModel Env Engine) (world : World Engine) (engine : Engine)
    (compWrite : ℕ) (polling : Polling) : Prop
  | idle (atIdle : polling = .idle) (same : engine = world.engine)
  | pending (atPending : polling = .pending world.dev.ring.reqReadIdx)
      (same : engine = world.engine) (waits : world.executed.length < world.submitted.length)
  | fetched {submission : Submission}
      (atFetched : polling = .fetched world.dev.ring.reqReadIdx submission.ring)
      (same : engine = world.engine)
      (oldest : world.submitted[world.executed.length]? = some submission)
  | executed {submission : Submission} {execution : Execution}
      (atExecuted : polling = .executed world.dev.ring.reqReadIdx execution)
      (inHands : InHands model world engine submission execution)
  | filled {submission : Submission} {execution : Execution}
      (atFilled : polling = .filled world.dev.ring.reqReadIdx execution)
      (inHands : InHands model world engine submission execution)
  | consumed {execution : Execution} (atConsumed : polling = .consumed execution)
      (same : engine = world.engine)
  | written {execution : Execution} (atWritten : polling = .written compWrite execution)
      (same : engine = world.engine)

/-- The completion of the oldest request in flight can be taken. -/
structure Ready (world : World Engine) (owed : ℕ) (execution : Execution) : Prop where
  published : world.consumed + owed < world.executed.length
  oldest : world.executed[world.consumed]? = some execution

inductive HarvestingAt (world : World Engine) (tags : ℕ → TagEntry) (owed : ℕ)
    (harvesting : Harvesting) : Prop
  | idle (atIdle : harvesting = .idle)
  | found {execution : Execution} (atFound : harvesting = .found world.dev.ring.compReadIdx)
      (ready : Ready world owed execution)
  | copied {execution : Execution}
      (atCopied : harvesting = .copied world.dev.ring.compReadIdx (completionOf execution))
      (ready : Ready world owed execution)
  | taken {execution : Execution} (atTaken : harvesting = .taken (completionOf execution))
      (ready : Ready world owed execution)
  | filled {tag : ℕ} {completed : Completed} (atFilled : harvesting = .filled tag completed)
      (started : (tags tag).state = .started)
      (free : world.dev.ring.stagingBitmap (world.dev.tags tag).cmd.stagingSlot = false)
  | freed {tag : ℕ} {completed : Completed} (atFreed : harvesting = .freed tag completed)
      (started : (tags tag).state = .started)

/-- The parties are in the middle of the state of the system. -/
structure Abstracts (model : EngineModel Env Engine) (parties : Parties Engine)
    (world : World Engine) : Prop where
  queueDepth : parties.dev.queueDepth = world.dev.queueDepth
  capacity : parties.dev.ring.capacity = world.dev.ring.capacity
  stagingPages : parties.dev.ring.stagingPages = world.dev.ring.stagingPages
  online : world.dev.ring.daemonConnected = true
  requests : parties.dev.ring.requests = parties.queueing.put world.dev.ring.requests
  reqWriteIdx : parties.dev.ring.reqWriteIdx = world.dev.ring.reqWriteIdx
  reqReadIdx : parties.dev.ring.reqReadIdx = world.dev.ring.reqReadIdx
  completions : world.dev.ring.completions =
    parties.polling.put parties.dev.ring.completions parties.dev.ring.compWriteIdx
  compWriteIdx : parties.dev.ring.compWriteIdx =
    (world.executed.length - parties.polling.owed) % world.dev.ring.capacity
  compReadIdx : parties.dev.ring.compReadIdx =
    (world.consumed + parties.harvesting.ahead) % world.dev.ring.capacity
  behind : world.consumed + parties.polling.owed ≤ world.executed.length
  staging : parties.dev.ring.staging =
    parties.queueing.stage (parties.polling.fill world.dev.ring.staging)
  bitmap : parties.dev.ring.stagingBitmap =
    parties.queueing.mark (parties.harvesting.mark world.dev.tags world.dev.ring.stagingBitmap)
  tags : parties.harvesting.settle parties.dev.tags = parties.queueing.enter world.dev.tags
  ended : world.harvests = parties.ended ++ parties.harvesting.ending?.toList
  queueing : QueueingAt world parties.queueing
  polling : PollingAt model world parties.engine parties.dev.ring.compWriteIdx parties.polling
  harvesting : HarvestingAt world parties.dev.tags parties.polling.owed parties.harvesting
  apartTags : ∀ {submission ending}, parties.queueing.submission? = some submission →
    parties.harvesting.ending? = some ending → submission.tag ≠ ending.tag
  apartSlots : ∀ {submission tag}, parties.queueing.submission? = some submission →
    parties.harvesting.held? = some tag →
    submission.slot ≠ (world.dev.tags tag).cmd.stagingSlot

end Places

section Overlays

variable {queueing : Queueing} {polling : Polling} {harvesting : Harvesting}

variable {slot tag : ℕ}

theorem Queueing.mark_update (bitmap : ℕ → Bool) (marked : Bool)
    (apart : ∀ {submission}, queueing.submission? = some submission → submission.slot ≠ slot) :
    queueing.mark (update bitmap slot marked) = update (queueing.mark bitmap) slot marked := by
  cases queueing with
  | idle | released => rfl
  | allocated | staged | started | tested | written | refused =>
      exact Function.update_comm (apart rfl).symm _ _ _

theorem Queueing.enter_update (tags : ℕ → TagEntry) (entry : TagEntry)
    (apart : ∀ {submission}, queueing.submission? = some submission → submission.tag ≠ tag) :
    queueing.enter (update tags tag entry) = update (queueing.enter tags) tag entry := by
  cases queueing with
  | idle | allocated | staged => rfl
  | started | tested | written | refused | released =>
      exact Function.update_comm (apart rfl).symm _ _ _

theorem Queueing.enter_apply (tags : ℕ → TagEntry)
    (apart : ∀ {submission}, queueing.submission? = some submission → submission.tag ≠ tag) :
    queueing.enter tags tag = tags tag := by
  cases queueing with
  | idle | allocated | staged => rfl
  | started | tested | written | refused | released =>
      exact Function.update_of_ne (apart rfl).symm _ _

theorem Queueing.put_apply {cell : ℕ} (requests : ℕ → DuvmRequest)
    (apart : ∀ {writeIdx}, queueing.cell? = some writeIdx → cell ≠ writeIdx) :
    queueing.put requests cell = requests cell := by
  cases queueing with
  | idle | allocated | staged | started | tested | refused | released => rfl
  | written => exact Function.update_of_ne (apart rfl) _ _

theorem Queueing.slotBytes_stage (staging : ByteMemory)
    (single : ∀ {submission}, queueing.submission? = some submission → submission.rq.SinglePage)
    (apart : ∀ {submission}, queueing.submission? = some submission → submission.slot ≠ slot) :
    slotBytes (queueing.stage staging) slot = slotBytes staging slot := by
  cases queueing with
  | idle | allocated => rfl
  | staged | started | tested | written | refused | released =>
      exact slotBytes_stage_of_ne _ (single rfl) (apart rfl).symm

theorem Queueing.stage_fill {execution : Execution} (staging : ByteMemory)
    (single : ∀ {submission}, queueing.submission? = some submission → submission.rq.SinglePage)
    (apart : ∀ {submission}, queueing.submission? = some submission →
      submission.slot ≠ execution.request.stagingSlot) :
    queueing.stage (execution.fill staging) = execution.fill (queueing.stage staging) := by
  cases queueing with
  | idle | allocated => rfl
  | staged | started | tested | written | refused | released =>
      exact Request.stage_fill (single rfl) (apart rfl).symm staging

theorem Polling.stage_fill {rq : Request} (single : rq.SinglePage) (staging : ByteMemory)
    (apart : ∀ {reqRead execution}, polling = .filled reqRead execution →
      execution.request.stagingSlot ≠ slot) :
    rq.stage (polling.fill staging) slot = polling.fill (rq.stage staging slot) := by
  cases polling with
  | idle | pending | fetched | executed | consumed | written => rfl
  | filled => exact Request.stage_fill single (apart rfl) staging

theorem Harvesting.settle_update (tags : ℕ → TagEntry) (entry : TagEntry)
    (apart : ∀ {ending}, harvesting.ending? = some ending → tag ≠ ending.tag) :
    harvesting.settle (update tags tag entry) = update (harvesting.settle tags) tag entry := by
  cases harvesting with
  | idle | found | copied | taken => rfl
  | filled | freed =>
      have other := apart rfl
      simp only [settle, Function.update_of_ne other.symm]
      exact Function.update_comm other _ _ _

theorem Harvesting.settle_apply (tags : ℕ → TagEntry)
    (apart : ∀ {ending}, harvesting.ending? = some ending → tag ≠ ending.tag) :
    harvesting.settle tags tag = tags tag := by
  cases harvesting with
  | idle | found | copied | taken => rfl
  | filled | freed => exact Function.update_of_ne (apart rfl) _ _

theorem Harvesting.mark_update (tags : ℕ → TagEntry) (bitmap : ℕ → Bool) (marked : Bool)
    (apart : ∀ {tag}, harvesting.held? = some tag → slot ≠ (tags tag).cmd.stagingSlot) :
    harvesting.mark tags (update bitmap slot marked) =
      update (harvesting.mark tags bitmap) slot marked := by
  cases harvesting with
  | idle | found | copied | taken | freed => rfl
  | filled => exact Function.update_comm (apart rfl) _ _ _

theorem Harvesting.mark_apply (tags : ℕ → TagEntry) (bitmap : ℕ → Bool)
    (apart : ∀ {tag}, harvesting.held? = some tag → slot ≠ (tags tag).cmd.stagingSlot) :
    harvesting.mark tags bitmap slot = bitmap slot := by
  cases harvesting with
  | idle | found | copied | taken | freed => rfl
  | filled => exact Function.update_of_ne (apart rfl) _ _

/-- A slot which is free for the parties is free. -/
theorem Harvesting.free_of_mark {tags : ℕ → TagEntry} {bitmap : ℕ → Bool}
    (free : harvesting.mark tags bitmap slot = false) :
    bitmap slot = false ∧
      ∀ {tag}, harvesting.held? = some tag → slot ≠ (tags tag).cmd.stagingSlot := by
  have apart : ∀ {tag}, harvesting.held? = some tag → slot ≠ (tags tag).cmd.stagingSlot := by
    rintro tag isHeld rfl
    cases harvesting with
    | idle | found | copied | taken | freed => cases isHeld
    | filled =>
        cases isHeld
        simp [mark] at free
  rw [mark_apply tags bitmap apart] at free
  exact ⟨free, apart⟩

theorem Harvesting.mark_tags (tags : ℕ → TagEntry) (bitmap : ℕ → Bool) (entry : TagEntry)
    (apart : ∀ {ending}, harvesting.ending? = some ending → tag ≠ ending.tag) :
    harvesting.mark (update tags tag entry) bitmap = harvesting.mark tags bitmap := by
  cases harvesting with
  | idle | found | copied | taken | freed => rfl
  | filled => simp only [mark, Function.update_of_ne (apart rfl).symm]

theorem Harvesting.exists_ending_of_held (isHeld : harvesting.held? = some tag) :
    ∃ ending, harvesting.ending? = some ending ∧ ending.tag = tag := by
  cases harvesting with
  | idle | found | copied | taken | freed => cases isHeld
  | filled =>
      cases isHeld
      exact ⟨_, rfl, rfl⟩

end Overlays

end Duvm.Kmod
