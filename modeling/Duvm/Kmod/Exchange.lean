import Duvm.Kmod.System

/-!
# The device with a daemon which writes any completion

The kernel side of the ring is as in `Kmod.System`, but the daemon is not the one
of `poll_once`: it consumes requests and writes completions in any order, of any
content and any number of times.

The state is the device with history. Requests are told apart by their tag and
by the number of their start, a slot has as owner the request for which it is
marked, and each request which the harvester ends is recorded with what was true
of it at that time.
-/

namespace Duvm.Kmod

open Function (update)

/-- The tag as the harvester computes it, in 32 bits with a sign, for any sequence number which the
daemon can write. -/
theorem tagOfSeq_eq_of_int {queueDepth : ℕ} (small : queueDepth < 2 ^ 31) (seq : BitVec 32) :
    tagOfSeq queueDepth seq.toNat =
      if (seq - 1).toInt < 0 ∨ (seq - 1).toInt ≥ queueDepth then none
      else some (seq - 1).toInt.toNat := by
  have below := seq.isLt
  have one : (1 : BitVec 32).toNat = 1 := rfl
  have signed : (seq - 1).toInt = (seq.toNat : ℤ) - 1 ∨
      (seq - 1).toInt < 0 ∧ (seq.toNat = 0 ∨ 2 ^ 31 < seq.toNat) := by
    rw [BitVec.toInt_eq_toNat_cond, BitVec.toNat_sub]
    omega
  rcases signed with same | ⟨negative, outside⟩
  · rw [same]
    rfl
  · -- a number which is negative as an `int` is zero or far above the depth
    rw [if_pos (Or.inl negative), tagOfSeq, if_pos]
    omega

/-- A tag with the number of a start. -/
abbrev Start := ℕ × ℕ

/-- A request which the harvester has ended, whether it was in flight, and whether it had the
slot which was freed. -/
structure Harvest where
  request : Start
  inFlight : Bool
  owned : Bool
deriving DecidableEq

/-- The device, how often a request has been started under each tag, for which request each slot
is marked, the requests answered by the daemon and those ended by the harvester. -/
structure Exchange where
  dev : DuvmDevice
  starts : ℕ → ℕ
  owner : ℕ → Option Start
  answers : List Start
  harvests : List Harvest

inductive ExchangeAction where
  | queueRq (tag : ℕ) (rq : Request) (fate : ℕ → MemoryFate)
  | takeRequest
  | complete (comp : DuvmCompletion)
  | harvest
  | ctlOpen (threadStarts : Bool)
  | ctlRelease

namespace Exchange

def start (dev : DuvmDevice) : Exchange := ⟨dev, fun _ => 0, fun _ => none, [], []⟩

/-- The request which was started last under a tag. -/
def current (state : Exchange) (tag : ℕ) : Start := (tag, state.starts tag)

def setRing (state : Exchange) (ring : DuvmRing) : Exchange :=
  { state with dev := { state.dev with ring } }

/-- A request is started. -/
def begun (state : Exchange) (tag : ℕ) (dev : DuvmDevice) : Exchange :=
  { state with dev, starts := update state.starts tag (state.starts tag + 1) }

/-- A request is started and has a slot. -/
def accepted (state : Exchange) (tag slot : ℕ) (dev : DuvmDevice) : Exchange :=
  { state.begun tag dev with
    owner := update state.owner slot (some (tag, state.starts tag + 1)) }

/-- `duvm_queue_rq` with its history. Without a free slot the request is not started; one which is
not in flight afterwards has given its slot back. -/
def queued (state : Exchange) (tag : ℕ) (rq : Request) (fate : ℕ → MemoryFate) : Exchange :=
  let dev := (duvmQueueRq state.dev fate tag rq).dev
  if state.dev.ring.daemonConnected then
    match (duvmAllocStagingSlot state.dev.ring).1 with
    | none => { state with dev }
    | some slot =>
        if (dev.tags tag).state = .started then state.accepted tag slot dev
        else state.begun tag dev
  else state.begun tag dev

/-- A completion written to the next cell of the ring. -/
def completed (state : Exchange) (comp : DuvmCompletion) : Exchange :=
  let ring := state.dev.ring
  { state.setRing { ring with
      completions := update ring.completions ring.compWriteIdx comp
      compWriteIdx := RingBuffer.advance ring.capacity ring.compWriteIdx } with
    answers := state.answers ++
      ((tagOfSeq state.dev.queueDepth comp.seq).map state.current).toList }

/-- The harvester moves on to the next completion. -/
def polled (state : Exchange) : Exchange :=
  state.setRing { state.dev.ring with
    compReadIdx := RingBuffer.advance state.dev.ring.capacity state.dev.ring.compReadIdx }

/-- The request under a tag is ended by the harvester, and its slot is freed. -/
def ended (state : Exchange) (tag : ℕ) (dev : DuvmDevice) : Exchange :=
  let entry := state.dev.tags tag
  { state with
    dev
    owner := update state.owner entry.cmd.stagingSlot none
    harvests := state.harvests ++ [{
      request := state.current tag
      inFlight := entry.state = .started
      owned := state.owner entry.cmd.stagingSlot = some (state.current tag) }] }

/-- What the harvester does with one completion, with its history. -/
def harvested (state : Exchange) : Exchange :=
  match duvmCompletionThread state.dev with
  | none => state
  | some ⟨dev, none⟩ => { state with dev }
  | some ⟨dev, some (tag, _)⟩ => state.ended tag dev

/-- The block layer issues a request under a tag which is in range and not in flight; daemon and
harvester run while the daemon is connected. -/
def step (state : Exchange) : ExchangeAction → Option Exchange
  | .queueRq tag rq fate =>
      if tag < state.dev.queueDepth ∧ (state.dev.tags tag).state ≠ .started then
        some (state.queued tag rq fate)
      else none
  | .takeRequest =>
      let ring := state.dev.ring
      if ring.daemonConnected ∧ ring.reqReadIdx ≠ ring.reqWriteIdx then
        some (state.setRing { ring with
          reqReadIdx := RingBuffer.advance ring.capacity ring.reqReadIdx })
      else none
  | .complete comp => if state.dev.ring.daemonConnected then some (state.completed comp) else none
  | .harvest => if state.dev.ring.daemonConnected then some state.harvested else none
  | .ctlOpen threadStarts => some { state with dev := (duvmCtlOpen state.dev threadStarts).2 }
  | .ctlRelease =>
      if state.dev.ring.daemonConnected then some { state with dev := duvmCtlRelease state.dev }
      else none

/-- The harvester has ended requests in flight only, each of them once, and has freed their own
slots. -/
structure Tolerates (state : Exchange) : Prop where
  inFlight : ∀ harvest ∈ state.harvests, harvest.inFlight = true
  once : (state.harvests.map Harvest.request).Nodup
  owned : ∀ harvest ∈ state.harvests, harvest.owned = true

/-- The completion which the harvester takes names a request in flight, or none. -/
def NamesInFlight (state : Exchange) : ExchangeAction → Prop
  | .harvest =>
      state.dev.ring.compReadIdx ≠ state.dev.ring.compWriteIdx →
      ∀ tag, tagOfSeq state.dev.queueDepth
          (state.dev.ring.completions state.dev.ring.compReadIdx).seq = some tag →
        (state.dev.tags tag).rq ≠ none → (state.dev.tags tag).state = .started
  | _ => True

/-- The completion which the daemon writes is out of range, or answers a request in flight which
has not been answered since its start. -/
def AnswersOnce (state : Exchange) : ExchangeAction → Prop
  | .complete comp =>
      ∀ tag, tagOfSeq state.dev.queueDepth comp.seq = some tag →
        (state.dev.tags tag).state = .started ∧ state.current tag ∉ state.answers
  | _ => True

/-- All that an action can do, with the guards under which it does it. -/
inductive Stepped (state : Exchange) : ExchangeAction → Exchange → Prop where
  | unchanged {action : ExchangeAction}
      (idle : action = .harvest → state.dev.ring.compReadIdx = state.dev.ring.compWriteIdx) :
      Stepped state action state
  | settled {tag : ℕ} {rq : Request} {fate : ℕ → MemoryFate} {entry : TagEntry}
      {staging : ByteMemory} {store : XArray}
      (notStarted : (state.dev.tags tag).state ≠ .started) (settles : entry.state ≠ .started) :
      Stepped state (.queueRq tag rq fate) (state.begun tag
        { state.dev with
          ring := { state.dev.ring with staging }
          tags := update state.dev.tags tag entry
          pageStore := store })
  | accepted {tag : ℕ} {rq : Request} {fate : ℕ → MemoryFate} {slot : ℕ}
      {staging : ByteMemory} {requests : ℕ → DuvmRequest} {reqWriteIdx : ℕ}
      (notStarted : (state.dev.tags tag).state ≠ .started)
      (free : state.dev.ring.stagingBitmap slot = false) :
      Stepped state (.queueRq tag rq fate) (state.accepted tag slot
        { state.dev with
          ring := { state.dev.ring with
            staging
            requests
            reqWriteIdx
            stagingBitmap := update state.dev.ring.stagingBitmap slot true }
          tags := update state.dev.tags tag
            ⟨some rq, ⟨tag + 1, slot, rq.dir = .read⟩, .started⟩ })
  | taken {reqReadIdx : ℕ} :
      Stepped state .takeRequest (state.setRing { state.dev.ring with reqReadIdx })
  | completed (comp : DuvmCompletion) : Stepped state (.complete comp) (state.completed comp)
  | skipped (pending : state.dev.ring.compReadIdx ≠ state.dev.ring.compWriteIdx)
      (unknown : ∀ tag, tagOfSeq state.dev.queueDepth
          (state.dev.ring.completions state.dev.ring.compReadIdx).seq = some tag →
        (state.dev.tags tag).rq = none) :
      Stepped state .harvest state.polled
  | ended {tag : ℕ} {rq : Request}
      (pending : state.dev.ring.compReadIdx ≠ state.dev.ring.compWriteIdx)
      (found : tagOfSeq state.dev.queueDepth
        (state.dev.ring.completions state.dev.ring.compReadIdx).seq = some tag)
      (listed : (state.dev.tags tag).rq ≠ none) :
      Stepped state .harvest (state.ended tag (blkMqEndRequest
        { state.dev with
          ring := { state.dev.ring with
            compReadIdx := RingBuffer.advance state.dev.ring.capacity state.dev.ring.compReadIdx
            stagingBitmap := update state.dev.ring.stagingBitmap
              (state.dev.tags tag).cmd.stagingSlot false } }
        tag rq))
  | opened {threadStarts : Bool} :
      Stepped state (.ctlOpen threadStarts)
        (state.setRing { state.dev.ring with daemonConnected := true })
  | released :
      Stepped state .ctlRelease (state.setRing { state.dev.ring with daemonConnected := false })

section Queued

variable {state : Exchange} {tag : ℕ} {rq : Request} {fate : ℕ → MemoryFate}

theorem queued_of_read (offline : state.dev.ring.daemonConnected = false)
    (direction : rq.dir = .read) :
    state.queued tag rq fate = state.begun tag (blkMqEndRequest state.dev tag
      { rq with segments := xarrayRead state.dev.pageStore rq.pos rq.segments }) := by
  simp [queued, duvmQueueRq, offline, queueRqSync, direction]

theorem queued_of_write (offline : state.dev.ring.daemonConnected = false)
    (direction : rq.dir = .write) :
    state.queued tag rq fate = state.begun tag { blkMqEndRequest state.dev tag rq with
      pageStore := (xarrayWrite fate state.dev.pageStore 0 rq.pos rq.segments).2 } := by
  simp [queued, duvmQueueRq, offline, queueRqSync, direction]

variable {slot : ℕ} (online : state.dev.ring.daemonConnected = true)
  (allocated : duvmAllocStagingSlot state.dev.ring = (some slot,
    { state.dev.ring with stagingBitmap := update state.dev.ring.stagingBitmap slot true }))
include online allocated

theorem queued_of_full (free : state.dev.ring.stagingBitmap slot = false)
    (full : RingBuffer.advance state.dev.ring.capacity state.dev.ring.reqWriteIdx =
      state.dev.ring.reqReadIdx) :
    state.queued tag rq fate = state.begun tag { state.dev with
      ring := { state.dev.ring with staging := rq.stage state.dev.ring.staging slot }
      tags := update state.dev.tags tag
        ⟨some rq, ⟨tag + 1, slot, rq.dir = .read⟩, .idle⟩ } := by
  have restored : update (update state.dev.ring.stagingBitmap slot true) slot false =
      state.dev.ring.stagingBitmap := by
    rw [Function.update_idem, ← free, Function.update_eq_self]
  simp [queued, duvmQueueRq, online, queueRqAsync, allocated, duvmRingSubmit, full,
    duvmFreeStagingSlot, restored]

theorem queued_of_room (room : RingBuffer.advance state.dev.ring.capacity
      state.dev.ring.reqWriteIdx ≠ state.dev.ring.reqReadIdx) :
    state.queued tag rq fate = state.accepted tag slot { state.dev with
      ring := { state.dev.ring with
        staging := rq.stage state.dev.ring.staging slot
        stagingBitmap := update state.dev.ring.stagingBitmap slot true
        requests := update state.dev.ring.requests state.dev.ring.reqWriteIdx
          (rq.toRing tag slot)
        reqWriteIdx := RingBuffer.advance state.dev.ring.capacity state.dev.ring.reqWriteIdx }
      tags := update state.dev.tags tag
        ⟨some rq, ⟨tag + 1, slot, rq.dir = .read⟩, .started⟩ } := by
  simp [queued, duvmQueueRq, online, queueRqAsync, allocated, duvmRingSubmit, room]

end Queued

theorem stepped_of_queueRq {state : Exchange} {tag : ℕ} {rq : Request} {fate : ℕ → MemoryFate}
    (notStarted : (state.dev.tags tag).state ≠ .started) :
    Stepped state (.queueRq tag rq fate) (state.queued tag rq fate) := by
  cases connection : state.dev.ring.daemonConnected with
  | false =>
      cases direction : rq.dir with
      | read =>
          rw [queued_of_read connection direction]
          exact .settled notStarted (by simp)
      | write =>
          rw [queued_of_write connection direction]
          exact .settled notStarted (by simp)
  | true =>
      cases allocation : duvmAllocStagingSlot state.dev.ring with
      | mk found after =>
          cases found with
          | none =>
              have result : state.queued tag rq fate = state := by
                simp [queued, duvmQueueRq, connection, queueRqAsync, allocation]
              rw [result]
              exact .unchanged (by simp)
          | some slot =>
              rcases duvmAllocStagingSlot_eq_some allocation with ⟨-, free, rfl⟩
              by_cases full : RingBuffer.advance state.dev.ring.capacity
                  state.dev.ring.reqWriteIdx = state.dev.ring.reqReadIdx
              · rw [queued_of_full connection allocation free full]
                exact .settled notStarted (by simp)
              · rw [queued_of_room connection allocation full]
                exact .accepted notStarted free

theorem harvested_of_skipped {state : Exchange} {ring : DuvmRing} {comp : DuvmCompletion}
    (polled : duvmRingPollCompletion state.dev.ring = (.ok comp, ring))
    (unknown : ∀ tag, tagOfSeq state.dev.queueDepth comp.seq = some tag →
      (state.dev.tags tag).rq = none) : state.harvested = state.setRing ring := by
  cases found : tagOfSeq state.dev.queueDepth comp.seq with
  | none => simp [harvested, duvmCompletionThread, polled, found, setRing]
  | some tag =>
      simp [harvested, duvmCompletionThread, polled, found, unknown tag found, setRing]

theorem stepped_of_harvest (state : Exchange) : Stepped state .harvest state.harvested := by
  cases polled : duvmRingPollCompletion state.dev.ring with
  | mk answer ring =>
      cases answer with
      | error errno =>
          have result : state.harvested = state := by
            simp [harvested, duvmCompletionThread, polled]
          rw [result]
          refine .unchanged fun _ => ?_
          by_contra pending
          simp [duvmRingPollCompletion, pending] at polled
      | ok comp =>
          by_cases unknown : ∀ tag, tagOfSeq state.dev.queueDepth comp.seq = some tag →
              (state.dev.tags tag).rq = none
          · rw [harvested_of_skipped polled unknown]
            rcases duvmRingPollCompletion_eq_ok polled with ⟨pending, rfl, rfl⟩
            exact .skipped pending unknown
          · push Not at unknown
            rcases unknown with ⟨tag, found, listed⟩
            rcases Option.ne_none_iff_exists'.mp listed with ⟨rq, isRq⟩
            rcases duvmRingPollCompletion_eq_ok polled with ⟨pending, rfl, rfl⟩
            have result := @Stepped.ended state tag
              (if (state.dev.tags tag).cmd.isRead ∧
                  (state.dev.ring.completions state.dev.ring.compReadIdx).result = 0 then
                rq.unstage state.dev.ring.staging (state.dev.tags tag).cmd.stagingSlot else rq)
              pending found listed
            simpa [harvested, duvmCompletionThread, polled, found, isRq, duvmFreeStagingSlot]
              using result

/-- Every step is one of those listed. -/
theorem stepped_of_step {state next : Exchange} {action : ExchangeAction}
    (stepped : state.step action = some next) : Stepped state action next := by
  cases action with
  | queueRq tag rq fate =>
      simp only [step, Option.ite_none_right_eq_some, Option.some.injEq] at stepped
      rcases stepped with ⟨⟨-, notStarted⟩, rfl⟩
      exact stepped_of_queueRq notStarted
  | takeRequest =>
      simp only [step, Option.ite_none_right_eq_some, Option.some.injEq] at stepped
      rcases stepped with ⟨-, rfl⟩
      exact .taken
  | complete comp =>
      simp only [step, Option.ite_none_right_eq_some, Option.some.injEq] at stepped
      rcases stepped with ⟨-, rfl⟩
      exact .completed comp
  | harvest =>
      simp only [step, Option.ite_none_right_eq_some, Option.some.injEq] at stepped
      rcases stepped with ⟨-, rfl⟩
      exact stepped_of_harvest state
  | ctlOpen threadStarts =>
      simp only [step, duvmCtlOpen, Option.some.injEq] at stepped
      subst stepped
      split_ifs
      · exact .unchanged (by simp)
      · exact .opened
      · exact .unchanged (by simp)
  | ctlRelease =>
      simp only [step, Option.ite_none_right_eq_some, Option.some.injEq] at stepped
      rcases stepped with ⟨-, rfl⟩
      exact .released

end Exchange

end Duvm.Kmod
