import Duvm.Daemon.KmodRing
import Duvm.Kmod.Device
import Duvm.Library.Transition

/-!
# The swap device as a system of three parties

The block layer issues requests, the daemon serves them and the harvester ends
them, each at any time. A `World` is the device together with the daemon's
engine and with history: the requests accepted by the ring, the requests
executed by the daemon, the number of completions taken by the harvester, the
requests handed back to the block layer in the order in which they were, and
the allocations of staging slots, numbered, with those that were released. No
function of the device reads the history.
-/

namespace Duvm.Kmod

open Function (update)
open Duvm.Daemon

universe u v

/-- A request accepted by the ring, with its tag and its staging slot. -/
structure Submission where
  tag : ℕ
  rq : Request
  slot : ℕ

namespace Submission

def ring (submission : Submission) : DuvmRequest :=
  submission.rq.toRing submission.tag submission.slot

/-- What the tag table holds while the request is in flight. -/
def entry (submission : Submission) : TagEntry :=
  ⟨some submission.rq, ⟨submission.tag + 1, submission.slot, submission.rq.dir = .read⟩, .started⟩

end Submission

/-- The completion which the daemon publishes for an execution. -/
def completionOf (execution : Execution) : DuvmCompletion :=
  ⟨execution.request.seq, execution.result, execution.request.stagingSlot⟩

/-- Which of the two stores served a request. -/
inductive Path where
  | ring
  | xarray
deriving DecidableEq, Repr

/-- A request handed back to the block layer. -/
structure Ending where
  path : Path
  tag : ℕ
  completed : Completed
deriving DecidableEq

structure World (Engine : Type v) where
  dev : DuvmDevice
  engine : Engine
  submitted : List Submission
  executed : List Execution
  consumed : ℕ
  ended : List Ending
  allocations : ℕ
  holder : ℕ → ℕ
  released : List ℕ

/-- The actions of the block layer, the daemon, the harvester and the control device. -/
inductive Action (Env : Type u) where
  | queueRq (tag : ℕ) (rq : Request) (fate : ℕ → MemoryFate)
  | pollOnce (env : Env)
  | harvest
  | timeout (tag : ℕ)
  | ctlOpen (threadStarts : Bool)
  | ctlRelease

namespace World

variable {Env : Type u} {Engine : Type v}

def start (dev : DuvmDevice) (engine : Engine) : World Engine where
  dev := dev
  engine := engine
  submitted := []
  executed := []
  consumed := 0
  ended := []
  allocations := 0
  holder := fun _ => 0
  released := []

/-- The requests accepted by the ring and not yet taken back by the harvester, oldest first. -/
def live (world : World Engine) : List Submission := world.submitted.drop world.consumed

/-- `duvm_queue_rq` with its history. -/
def queued (world : World Engine) (tag : ℕ) (rq : Request) (fate : ℕ → MemoryFate) :
    World Engine :=
  let result := duvmQueueRq world.dev fate tag rq
  let path := if world.dev.ring.daemonConnected then Path.ring else .xarray
  let next := { world with
    dev := result.dev
    ended := world.ended ++ (result.ended.map (Ending.mk path tag)).toList }
  if world.dev.ring.daemonConnected then
    match (duvmAllocStagingSlot world.dev.ring).1, result.status, result.ended with
    | none, _, _ => next
    | some slot, .ok, none =>
        { next with
          submitted := world.submitted ++ [⟨tag, rq, slot⟩]
          allocations := world.allocations + 1
          holder := update world.holder tag world.allocations }
    | some _, _, _ =>
        { next with
          allocations := world.allocations + 1
          released := world.released ++ [world.allocations] }
  else next

/-- What the harvester does with one completion, with its history. -/
def harvested (world : World Engine) (result : HarvestResult) : World Engine :=
  match result.ended with
  | none => { world with dev := result.dev, consumed := world.consumed + 1 }
  | some (tag, completed) =>
      { world with
        dev := result.dev
        consumed := world.consumed + 1
        ended := world.ended ++ [⟨.ring, tag, completed⟩]
        released := world.released ++ [world.holder tag] }

/-- The block layer issues a request under a tag which is in range and not in flight; a
timeout fires on a started request; daemon and harvester run while the daemon is connected. -/
def step (model : EngineModel Env Engine) (world : World Engine) :
    Action Env → Option (World Engine)
  | .queueRq tag rq fate =>
      if tag < world.dev.queueDepth ∧ (world.dev.tags tag).state ≠ .started then
        some (world.queued tag rq fate)
      else none
  | .pollOnce env =>
      if world.dev.ring.daemonConnected then
        match pollOnce model env world.dev.ring world.engine with
        | .idle => some world
        | .panicked _ => none
        | .served execution ring engine =>
            some { world with
              dev := { world.dev with ring := ring }
              engine := engine
              executed := world.executed ++ [execution] }
      else none
  | .harvest =>
      if world.dev.ring.daemonConnected then
        match duvmCompletionThread world.dev with
        | none => some world
        | some result => some (world.harvested result)
      else none
  | .timeout tag =>
      if (world.dev.tags tag).state = .started then
        some { world with
          dev := duvmTimeout world.dev tag
          released := world.released ++ [world.holder tag] }
      else none
  | .ctlOpen threadStarts =>
      some { world with dev := (duvmCtlOpen world.dev threadStarts).2 }
  | .ctlRelease =>
      if world.dev.ring.daemonConnected then
        some { world with dev := duvmCtlRelease world.dev }
      else none

/-- A request for which the ring was full: its slot is taken and given back. -/
def refusedRing (world : World Engine) (tag : ℕ) (rq : Request) (slot : ℕ) : World Engine :=
  { world with
    dev := { world.dev with
      ring := { world.dev.ring with staging := rq.stage world.dev.ring.staging slot }
      tags := update world.dev.tags tag
        ⟨some rq, ⟨tag + 1, slot, rq.dir = .read⟩, .idle⟩ }
    allocations := world.allocations + 1
    released := world.released ++ [world.allocations] }

/-- A request accepted by the ring. -/
def accepted (world : World Engine) (submission : Submission) : World Engine :=
  { world with
    dev := { world.dev with
      ring := { world.dev.ring with
        staging := submission.rq.stage world.dev.ring.staging submission.slot
        stagingBitmap := update world.dev.ring.stagingBitmap submission.slot true
        requests := update world.dev.ring.requests world.dev.ring.reqWriteIdx submission.ring
        reqWriteIdx := RingBuffer.advance world.dev.ring.capacity world.dev.ring.reqWriteIdx }
      tags := update world.dev.tags submission.tag submission.entry }
    submitted := world.submitted ++ [submission]
    allocations := world.allocations + 1
    holder := update world.holder submission.tag world.allocations }

/-- A request ended at once on the xarray path. -/
def endedLocally (world : World Engine) (tag : ℕ) (completed : Completed) (store : XArray) :
    World Engine :=
  { world with
    dev := { blkMqEndRequest world.dev tag completed.rq with pageStore := store }
    ended := world.ended ++ [⟨.xarray, tag, completed⟩] }

/-- A request executed by the daemon, its completion published. -/
def served (world : World Engine) (execution : Execution) (engine : Engine) : World Engine :=
  { world with
    dev := { world.dev with
      ring := publish
        { world.dev.ring with staging := execution.fill world.dev.ring.staging }
        execution.request execution.result }
    engine := engine
    executed := world.executed ++ [execution] }

/-- A completion taken by the harvester which names no request. -/
def skipped (world : World Engine) : World Engine :=
  { world with
    dev := { world.dev with
      ring := { world.dev.ring with
        compReadIdx := RingBuffer.advance world.dev.ring.capacity world.dev.ring.compReadIdx } }
    consumed := world.consumed + 1 }

/-- The request which the harvester hands back. -/
def answer (world : World Engine) (rq : Request) (cmd : DuvmCmd) (result : ℤ) : Completed where
  rq :=
    if cmd.isRead ∧ result = 0 then rq.unstage world.dev.ring.staging cmd.stagingSlot else rq
  status := if result = 0 then .ok else .ioerr

/-- A completion taken by the harvester, its request ended and its slot given back. -/
def answered (world : World Engine) (tag slot : ℕ) (completed : Completed) : World Engine :=
  { world with
    dev := blkMqEndRequest
      { world.dev with
        ring := { world.dev.ring with
          compReadIdx := RingBuffer.advance world.dev.ring.capacity world.dev.ring.compReadIdx
          stagingBitmap := update world.dev.ring.stagingBitmap slot false } }
      tag completed.rq
    consumed := world.consumed + 1
    ended := world.ended ++ [⟨.ring, tag, completed⟩]
    released := world.released ++ [world.holder tag] }

/-- A timeout, which gives the slot of a started request back. -/
def timedOut (world : World Engine) (tag : ℕ) : World Engine :=
  { world with
    dev := { world.dev with
      ring := { world.dev.ring with
        stagingBitmap :=
          update world.dev.ring.stagingBitmap (world.dev.tags tag).cmd.stagingSlot false } }
    released := world.released ++ [world.holder tag] }

def connected (world : World Engine) (connection : Bool) : World Engine :=
  { world with
    dev := { world.dev with ring := { world.dev.ring with daemonConnected := connection } } }

/-- All that an action can do, with the guards under which it does it. -/
inductive Stepped (model : EngineModel Env Engine) (world : World Engine) :
    Action Env → World Engine → Prop where
  | unchanged {action : Action Env}
      (idle : ∀ env, action = .pollOnce env →
        world.dev.ring.reqReadIdx = world.dev.ring.reqWriteIdx)
      (noTimeout : ∀ tag, action ≠ .timeout tag) :
      Stepped model world action world
  | refused {tag : ℕ} {rq : Request} {fate : ℕ → MemoryFate} {slot : ℕ}
      (notStarted : (world.dev.tags tag).state ≠ .started)
      (free : world.dev.ring.stagingBitmap slot = false) :
      Stepped model world (.queueRq tag rq fate) (world.refusedRing tag rq slot)
  | accepted (submission : Submission) {fate : ℕ → MemoryFate}
      (online : world.dev.ring.daemonConnected = true)
      (inRange : submission.tag < world.dev.queueDepth)
      (notStarted : (world.dev.tags submission.tag).state ≠ .started)
      (inside : submission.slot < world.dev.ring.stagingPages)
      (free : world.dev.ring.stagingBitmap submission.slot = false)
      (room : RingBuffer.advance world.dev.ring.capacity world.dev.ring.reqWriteIdx ≠
        world.dev.ring.reqReadIdx) :
      Stepped model world (.queueRq submission.tag submission.rq fate)
        (world.accepted submission)
  | written {tag : ℕ} {rq : Request} {fate : ℕ → MemoryFate} {allocated : Bool}
      {store : XArray} (offline : world.dev.ring.daemonConnected = false)
      (notStarted : (world.dev.tags tag).state ≠ .started) (direction : rq.dir = .write)
      (stored : xarrayWrite fate world.dev.pageStore 0 rq.pos rq.segments =
        (allocated, store)) :
      Stepped model world (.queueRq tag rq fate)
        (world.endedLocally tag ⟨rq, if allocated then .ok else .resource⟩ store)
  | read {tag : ℕ} {rq : Request} {fate : ℕ → MemoryFate}
      (offline : world.dev.ring.daemonConnected = false)
      (notStarted : (world.dev.tags tag).state ≠ .started) (direction : rq.dir = .read) :
      Stepped model world (.queueRq tag rq fate)
        (world.endedLocally tag
          ⟨{ rq with segments := xarrayRead world.dev.pageStore rq.pos rq.segments }, .ok⟩
          world.dev.pageStore)
  | served (execution : Execution) {env : Env} {engine : Engine}
      (pending : world.dev.ring.reqReadIdx ≠ world.dev.ring.reqWriteIdx)
      (request : execution.request = world.dev.ring.requests world.dev.ring.reqReadIdx)
      (executes : Executes model world.engine execution engine)
      (given : ∀ page, execution.given = some page →
        page = readPage world.dev.ring.staging (execution.request.stagingSlot * PAGE_SIZE)) :
      Stepped model world (.pollOnce env) (world.served execution engine)
  | skipped (pending : world.dev.ring.compReadIdx ≠ world.dev.ring.compWriteIdx)
      (unknown : ∀ tag, tag < world.dev.queueDepth →
        (world.dev.ring.completions world.dev.ring.compReadIdx).seq = tag + 1 →
        (world.dev.tags tag).rq = none) :
      Stepped model world .harvest world.skipped
  | answered {tag : ℕ} {rq : Request}
      (pending : world.dev.ring.compReadIdx ≠ world.dev.ring.compWriteIdx)
      (seq : (world.dev.ring.completions world.dev.ring.compReadIdx).seq = tag + 1)
      (listed : (world.dev.tags tag).rq = some rq) :
      Stepped model world .harvest
        (world.answered tag (world.dev.tags tag).cmd.stagingSlot
          (world.answer rq (world.dev.tags tag).cmd
            (world.dev.ring.completions world.dev.ring.compReadIdx).result))
  | timedOut {tag : ℕ} (started : (world.dev.tags tag).state = .started) :
      Stepped model world (.timeout tag) (world.timedOut tag)
  | opened {threadStarts : Bool} : Stepped model world (.ctlOpen threadStarts)
      (world.connected true)
  | released : Stepped model world .ctlRelease (world.connected false)

section Queued

variable {world : World Engine} {tag : ℕ} {rq : Request} {fate : ℕ → MemoryFate}

theorem queued_of_read (offline : world.dev.ring.daemonConnected = false)
    (direction : rq.dir = .read) :
    world.queued tag rq fate = world.endedLocally tag
      ⟨{ rq with segments := xarrayRead world.dev.pageStore rq.pos rq.segments }, .ok⟩
      world.dev.pageStore := by
  simp [queued, duvmQueueRq, offline, queueRqSync, direction, endedLocally, blkMqEndRequest]

theorem queued_of_write (offline : world.dev.ring.daemonConnected = false)
    (direction : rq.dir = .write) {allocated : Bool} {store : XArray}
    (stored : xarrayWrite fate world.dev.pageStore 0 rq.pos rq.segments = (allocated, store)) :
    world.queued tag rq fate =
      world.endedLocally tag ⟨rq, if allocated then .ok else .resource⟩ store := by
  simp [queued, duvmQueueRq, offline, queueRqSync, direction, stored, endedLocally]

theorem queued_of_accepted (online : world.dev.ring.daemonConnected = true) {slot : ℕ}
    (allocated : duvmAllocStagingSlot world.dev.ring = (some slot,
      { world.dev.ring with stagingBitmap := update world.dev.ring.stagingBitmap slot true }))
    (room : RingBuffer.advance world.dev.ring.capacity world.dev.ring.reqWriteIdx ≠
      world.dev.ring.reqReadIdx) :
    world.queued tag rq fate = world.accepted ⟨tag, rq, slot⟩ := by
  simp [queued, duvmQueueRq, online, queueRqAsync, allocated, duvmRingSubmit, room, accepted,
    Submission.entry, Submission.ring]

end Queued

variable {model : EngineModel Env Engine} {world : World Engine}

theorem stepped_of_queueRq {tag : ℕ} {rq : Request} {fate : ℕ → MemoryFate}
    (inRange : tag < world.dev.queueDepth) (notStarted : (world.dev.tags tag).state ≠ .started) :
    Stepped model world (.queueRq tag rq fate) (world.queued tag rq fate) := by
  cases connection : world.dev.ring.daemonConnected with
  | false =>
      cases direction : rq.dir with
      | read =>
          rw [queued_of_read connection direction]
          exact .read connection notStarted direction
      | write =>
          cases stored : xarrayWrite fate world.dev.pageStore 0 rq.pos rq.segments with
          | mk allocated store =>
              rw [queued_of_write connection direction stored]
              exact .written connection notStarted direction stored
  | true =>
      cases allocation : duvmAllocStagingSlot world.dev.ring with
      | mk found after =>
          cases found with
          | none =>
              have result : world.queued tag rq fate = world := by
                simp [queued, duvmQueueRq, connection, queueRqAsync, allocation]
              rw [result]
              exact .unchanged nofun nofun
          | some slot =>
              rcases duvmAllocStagingSlot_eq_some allocation with ⟨inside, free, rfl⟩
              have restored :
                  update (update world.dev.ring.stagingBitmap slot true) slot false =
                    world.dev.ring.stagingBitmap := by
                rw [Function.update_idem, ← free, Function.update_eq_self]
              by_cases full : RingBuffer.advance world.dev.ring.capacity
                  world.dev.ring.reqWriteIdx = world.dev.ring.reqReadIdx
              · have result : world.queued tag rq fate = world.refusedRing tag rq slot := by
                  simp [queued, duvmQueueRq, connection, queueRqAsync, allocation,
                    duvmRingSubmit, full, duvmFreeStagingSlot, refusedRing, restored]
                rw [result]
                exact .refused notStarted free
              · rw [queued_of_accepted connection allocation full]
                exact .accepted ⟨tag, rq, slot⟩ connection inRange notStarted inside free full

theorem tagOfSeq_eq_some_iff {queueDepth seq tag : ℕ} :
    tagOfSeq queueDepth seq = some tag ↔ seq = tag + 1 ∧ tag < queueDepth := by
  simp only [tagOfSeq]
  split
  · next outside =>
      simp only [reduceCtorEq, false_iff, not_and, not_lt]
      omega
  · next inside =>
      simp only [Option.some.injEq]
      omega

theorem stepped_of_harvest {result : HarvestResult}
    (taken : duvmCompletionThread world.dev = some result) :
    Stepped model world .harvest (world.harvested result) := by
  unfold duvmCompletionThread at taken
  split at taken
  · simp at taken
  · next comp ring polled =>
      rcases duvmRingPollCompletion_eq_ok polled with ⟨pending, rfl, rfl⟩
      simp only at taken
      split at taken
      · next outside =>
          simp only [Option.some.injEq] at taken
          subst taken
          refine .skipped pending ?_
          intro tag inRange seq
          have found := tagOfSeq_eq_some_iff.mpr ⟨seq, inRange⟩
          rw [outside] at found
          simp at found
      · next tag found =>
          rcases tagOfSeq_eq_some_iff.mp found with ⟨seq, inRange⟩
          split at taken
          · next absent =>
              simp only [Option.some.injEq] at taken
              subst taken
              refine .skipped pending ?_
              intro other _ sameSeq
              have same : other = tag := by omega
              rw [same, absent]
          · next rq listed =>
              simp only [Option.some.injEq] at taken
              subst taken
              exact .answered pending seq listed

/-- Every step is one of those listed. -/
theorem stepped_of_step {next : World Engine} {action : Action Env}
    (stepped : step model world action = some next) :
    Stepped model world action next := by
  cases action with
  | queueRq tag rq fate =>
      simp only [step, Option.ite_none_right_eq_some, Option.some.injEq] at stepped
      rcases stepped with ⟨⟨inRange, notStarted⟩, rfl⟩
      exact stepped_of_queueRq inRange notStarted
  | pollOnce env =>
      simp only [step, Option.ite_none_right_eq_some] at stepped
      rcases stepped with ⟨_, stepped⟩
      split at stepped
      · next quiet =>
          simp only [Option.some.injEq] at stepped
          subst stepped
          refine .unchanged ?_ nofun
          intro _ _
          by_contra pending
          simp only [pollOnce, if_neg pending] at quiet
          split at quiet
          · split at quiet <;> simp at quiet
          · split at quiet <;> simp at quiet
          · simp at quiet
      · simp at stepped
      · next execution ring engine call =>
          simp only [Option.some.injEq] at stepped
          subst stepped
          rcases pollOnce_served call with ⟨pending, request, rfl, executes, given⟩
          exact .served execution pending request executes given
  | harvest =>
      simp only [step, Option.ite_none_right_eq_some] at stepped
      rcases stepped with ⟨_, stepped⟩
      split at stepped
      · simp only [Option.some.injEq] at stepped
        subst stepped
        exact .unchanged nofun nofun
      · next result taken =>
          simp only [Option.some.injEq] at stepped
          subst stepped
          exact stepped_of_harvest taken
  | timeout tag =>
      simp only [step, Option.ite_none_right_eq_some, Option.some.injEq] at stepped
      rcases stepped with ⟨started, rfl⟩
      exact .timedOut started
  | ctlOpen threadStarts =>
      simp only [step, duvmCtlOpen, Option.some.injEq] at stepped
      subst stepped
      split
      · exact .unchanged nofun nofun
      · split
        · exact .opened
        · exact .unchanged nofun nofun
  | ctlRelease =>
      simp only [step, Option.ite_none_right_eq_some, Option.some.injEq] at stepped
      rcases stepped with ⟨_, rfl⟩
      exact .released

end World

end Duvm.Kmod
