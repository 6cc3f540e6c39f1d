import Duvm.Kmod.System

/-!
# The swap device access by access

`duvm_queue_rq`, `poll_once` and `duvm_completion_thread` run at the same time, in the
kernel and in the daemon, on memory which they share. Here each of them is taken
apart into its accesses to that memory, and the accesses are interleaved in any way.
The indices of the rings are read and written as words, the bitmap of the staging
slots is under a spin lock. The entries of the rings, the pages of the staging area
and the command data are copied without any lock.

A party which is not held up makes the whole call, as it is in `Kmod.System`.

The control device stays open, no request times out, and the block layer submits
one request at a time. The tests of `daemon_connected` therefore succeed.
-/

namespace Duvm.Daemon

open Duvm.Kmod

universe u v

variable {Env : Type u} {Engine : Type v}

/-- The part of `poll_once` between the copy of the request and the first write to the shared
memory. There is no execution when the engine panics. -/
def execute (model : EngineModel Env Engine) (env : Env) (staging : ByteMemory) (engine : Engine)
    (req : DuvmRequest) : Option Execution × Engine :=
  match req.op with
  | .store =>
      let pageData := readPage staging (req.stagingSlot * PAGE_SIZE)
      match model.storePage env engine req.offset pageData with
      | (.ok _, engine) => (some ⟨req, some pageData, none, 0⟩, engine)
      | (.err _, engine) => (some ⟨req, some pageData, none, -1⟩, engine)
      | (.panic, engine) => (none, engine)
  | .load =>
      match model.loadPage env engine req.offset with
      | (.ok pageData, engine) => (some ⟨req, none, some pageData, 0⟩, engine)
      | (.error _, engine) => (some ⟨req, none, none, -1⟩, engine)
  | _ => (some ⟨req, none, none, -1⟩, engine)

/-- What `poll_once` comes to once the engine has been called. -/
def PollOutcome.ofExecution (ring : DuvmRing) : Option Execution × Engine → PollOutcome Engine
  | (none, engine) => .panicked engine
  | (some execution, engine) =>
      .served execution
        (publish { ring with staging := execution.fill ring.staging } execution.request
          execution.result) engine

theorem pollOnce_of_pending (model : EngineModel Env Engine) (env : Env) {ring : DuvmRing}
    (engine : Engine) (pending : ring.reqReadIdx ≠ ring.reqWriteIdx) :
    pollOnce model env ring engine =
      .ofExecution ring
        (execute model env ring.staging engine (ring.requests ring.reqReadIdx)) := by
  simp only [pollOnce, if_neg pending, execute]
  cases (ring.requests ring.reqReadIdx).op with
  | store =>
      simp only
      split <;> simp_all [PollOutcome.ofExecution, Execution.fill]
  | load =>
      simp only
      split <;> simp_all [PollOutcome.ofExecution, Execution.fill]
  | nop => rfl
  | invalidate => rfl

theorem executes_of_execute {model : EngineModel Env Engine} {env : Env} {staging : ByteMemory}
    {engine next : Engine} {req : DuvmRequest} {execution : Execution}
    (executed : execute model env staging engine req = (some execution, next)) :
    execution.request = req ∧ Executes model engine execution next ∧
      ∀ page, execution.given = some page →
        page = readPage staging (execution.request.stagingSlot * PAGE_SIZE) := by
  -- a ring which holds nothing but the request
  have served := @pollOnce_of_pending _ _ model env
    { duvmRingInit 1 1 with staging, reqWriteIdx := 1, requests := fun _ => req } engine
    Nat.zero_ne_one
  simp only [duvmRingInit, executed] at served
  rcases pollOnce_served served with ⟨_, request, _, executes, given⟩
  exact ⟨request, executes, given⟩

end Duvm.Daemon

namespace Duvm.Kmod

open Function (update)
open Duvm.Daemon

universe u v

/-- Where `duvm_queue_rq` is. -/
inductive Queueing where
  | idle
  | allocated (submission : Submission)
  | staged (submission : Submission)
  | started (submission : Submission)
  | tested (submission : Submission) (writeIdx : ℕ)
  | written (submission : Submission) (writeIdx : ℕ)
  | refused (submission : Submission)
  | released (submission : Submission)

/-- Where `poll_once` is. -/
inductive Polling where
  | idle
  | pending (reqRead : ℕ)
  | fetched (reqRead : ℕ) (req : DuvmRequest)
  | executed (reqRead : ℕ) (execution : Execution)
  | filled (reqRead : ℕ) (execution : Execution)
  | consumed (execution : Execution)
  | written (compWrite : ℕ) (execution : Execution)

/-- Where `duvm_completion_thread` is. -/
inductive Harvesting where
  | idle
  | found (cidx : ℕ)
  | copied (cidx : ℕ) (comp : DuvmCompletion)
  | taken (comp : DuvmCompletion)
  | filled (tag : ℕ) (completed : Completed)
  | freed (tag : ℕ) (completed : Completed)

/-- The device and the engine with the three parties, and the requests which the harvester has
ended. -/
structure Parties (Engine : Type v) where
  dev : DuvmDevice
  engine : Engine
  queueing : Queueing
  polling : Polling
  harvesting : Harvesting
  ended : List Ending

/-- The block layer calls `duvm_queue_rq`, or one of the parties makes its next access. -/
inductive PartyAction (Env : Type u) where
  | queueRq (tag : ℕ) (rq : Request)
  | queueing
  | polling (env : Env)
  | harvesting

namespace Parties

variable {Env : Type u} {Engine : Type v}

/-- The daemon has just opened the control device. -/
def start (dev : DuvmDevice) (engine : Engine) : Parties Engine where
  dev := { dev with ring := { dev.ring with daemonConnected := true } }
  engine := engine
  queueing := .idle
  polling := .idle
  harvesting := .idle
  ended := []

def setRing (parties : Parties Engine) (ring : DuvmRing) : Parties Engine :=
  { parties with dev := { parties.dev with ring } }

def setTag (parties : Parties Engine) (tag : ℕ) (entry : TagEntry) : Parties Engine :=
  { parties with dev := { parties.dev with tags := update parties.dev.tags tag entry } }

/-- The slot is allocated; without one the request goes back to the block layer. -/
def enter (parties : Parties Engine) (tag : ℕ) (rq : Request) : Parties Engine :=
  match duvmAllocStagingSlot parties.dev.ring with
  | (none, _) => parties
  | (some slot, ring) =>
      { parties.setRing ring with queueing := .allocated ⟨tag, rq, slot⟩ }

def queueStep (parties : Parties Engine) : Option (Parties Engine) :=
  let ring := parties.dev.ring
  match parties.queueing with
  | .idle => none
  | .allocated submission =>
      some { parties.setRing
          { ring with staging := submission.rq.stage ring.staging submission.slot } with
        queueing := .staged submission }
  | .staged submission =>
      some { parties.setTag submission.tag submission.entry with queueing := .started submission }
  -- `duvm_ring_submit`
  | .started submission =>
      if RingBuffer.advance ring.capacity ring.reqWriteIdx = ring.reqReadIdx then
        some { parties with queueing := .refused submission }
      else some { parties with queueing := .tested submission ring.reqWriteIdx }
  | .tested submission writeIdx =>
      some { parties.setRing
          { ring with requests := update ring.requests writeIdx submission.ring } with
        queueing := .written submission writeIdx }
  | .written _ writeIdx =>
      some { parties.setRing
          { ring with reqWriteIdx := RingBuffer.advance ring.capacity writeIdx } with
        queueing := .idle }
  | .refused submission =>
      some { parties.setRing (duvmFreeStagingSlot ring submission.slot) with
        queueing := .released submission }
  -- `BLK_STS_RESOURCE`, upon which the block layer keeps the request for later
  | .released submission =>
      some { parties.setTag submission.tag { submission.entry with state := .idle } with
        queueing := .idle }

def pollStep (model : EngineModel Env Engine) (env : Env) (parties : Parties Engine) :
    Option (Parties Engine) :=
  let ring := parties.dev.ring
  match parties.polling with
  | .idle =>
      if ring.reqReadIdx = ring.reqWriteIdx then some parties
      else some { parties with polling := .pending ring.reqReadIdx }
  | .pending reqRead =>
      some { parties with polling := .fetched reqRead (ring.requests reqRead) }
  | .fetched reqRead req =>
      match execute model env ring.staging parties.engine req with
      | (none, _) => none
      | (some execution, engine) =>
          some { parties with engine, polling := .executed reqRead execution }
  -- only a load which succeeds has a page to copy
  | .executed reqRead execution =>
      some { parties.setRing { ring with staging := execution.fill ring.staging } with
        polling := .filled reqRead execution }
  | .filled reqRead execution =>
      some { parties.setRing
          { ring with reqReadIdx := RingBuffer.advance ring.capacity reqRead } with
        polling := .consumed execution }
  | .consumed execution =>
      some { parties.setRing
          { ring with
            completions := update ring.completions ring.compWriteIdx (completionOf execution) } with
        polling := .written ring.compWriteIdx execution }
  | .written compWrite _ =>
      some { parties.setRing
          { ring with compWriteIdx := RingBuffer.advance ring.capacity compWrite } with
        polling := .idle }

def harvestStep (parties : Parties Engine) : Option (Parties Engine) :=
  let ring := parties.dev.ring
  match parties.harvesting with
  | .idle =>
      if ring.compReadIdx = ring.compWriteIdx then some parties
      else some { parties with harvesting := .found ring.compReadIdx }
  | .found cidx => some { parties with harvesting := .copied cidx (ring.completions cidx) }
  | .copied cidx comp =>
      some { parties.setRing
          { ring with compReadIdx := RingBuffer.advance ring.capacity cidx } with
        harvesting := .taken comp }
  | .taken comp =>
      match tagOfSeq parties.dev.queueDepth comp.seq with
      | none => some { parties with harvesting := .idle }
      | some tag =>
          match (parties.dev.tags tag).rq with
          | none => some { parties with harvesting := .idle }
          | some rq =>
              let cmd := (parties.dev.tags tag).cmd
              let filled :=
                if cmd.isRead ∧ comp.result = 0 then rq.unstage ring.staging cmd.stagingSlot
                else rq
              let status := if comp.result = 0 then BlkStatus.ok else .ioerr
              some { parties with harvesting := .filled tag ⟨filled, status⟩ }
  | .filled tag completed =>
      some { parties.setRing
          (duvmFreeStagingSlot ring (parties.dev.tags tag).cmd.stagingSlot) with
        harvesting := .freed tag completed }
  | .freed tag completed =>
      some { parties with
        dev := blkMqEndRequest parties.dev tag completed.rq
        harvesting := .idle
        ended := parties.ended ++ [⟨.ring, tag, completed⟩] }

def step (model : EngineModel Env Engine) (parties : Parties Engine) :
    PartyAction Env → Option (Parties Engine)
  | .queueRq tag rq =>
      match parties.queueing with
      | .idle =>
          if tag < parties.dev.queueDepth ∧ (parties.dev.tags tag).state ≠ .started then
            some (parties.enter tag rq)
          else none
      | _ => none
  | .queueing => parties.queueStep
  | .polling env => parties.pollStep model env
  | .harvesting => parties.harvestStep

section Alone

variable {model : EngineModel Env Engine} {parties : Parties Engine}

/-- A submitter which is not held up makes the whole of `duvm_queue_rq`. -/
theorem run_queueRq {tag : ℕ} {rq : Request} (idle : parties.queueing = .idle)
    (connected : parties.dev.ring.daemonConnected = true) (inRange : tag < parties.dev.queueDepth)
    (notStarted : (parties.dev.tags tag).state ≠ .started) (fate : ℕ → MemoryFate) :
    ∃ accesses, Transition.run (step model) parties
        (.queueRq tag rq :: List.replicate accesses .queueing) =
      some { parties with dev := (duvmQueueRq parties.dev fate tag rq).dev } := by
  cases allocation : duvmAllocStagingSlot parties.dev.ring with
  | mk found ring =>
      cases found with
      | none =>
          refine ⟨0, ?_⟩
          simp [step, idle, inRange, notStarted, enter, duvmQueueRq, connected, queueRqAsync,
            allocation, Transition.run_cons]
          rw [← idle]
      | some slot =>
          rcases duvmAllocStagingSlot_eq_some allocation with ⟨_, _, rfl⟩
          by_cases full : RingBuffer.advance parties.dev.ring.capacity
              parties.dev.ring.reqWriteIdx = parties.dev.ring.reqReadIdx
          · refine ⟨5, ?_⟩
            simp [step, idle, inRange, notStarted, enter, duvmQueueRq, connected, queueRqAsync,
              allocation, duvmRingSubmit, full, queueStep, setRing, setTag, duvmFreeStagingSlot,
              Submission.entry, List.replicate_succ, Transition.run_cons]
          · refine ⟨5, ?_⟩
            simp [step, idle, inRange, notStarted, enter, duvmQueueRq, connected, queueRqAsync,
              allocation, duvmRingSubmit, full, queueStep, setRing, setTag, Submission.entry,
              Submission.ring, List.replicate_succ, Transition.run_cons]

/-- A daemon which is not held up makes the whole of `poll_once`. -/
theorem run_pollOnce {env : Env} {execution : Execution} {ring : DuvmRing} {engine : Engine}
    (idle : parties.polling = .idle)
    (served : pollOnce model env parties.dev.ring parties.engine =
      .served execution ring engine) :
    Transition.run (step model) parties (List.replicate 7 (.polling env)) =
      some { parties.setRing ring with engine } := by
  have pending := (pollOnce_served served).1
  rw [pollOnce_of_pending model env _ pending] at served
  cases called : execute model env parties.dev.ring.staging parties.engine
      (parties.dev.ring.requests parties.dev.ring.reqReadIdx) with
  | mk result next =>
      rw [called] at served
      cases result with
      | none => cases served
      | some found =>
          cases served
          simp [step, pollStep, idle, pending, called, setRing, publish, completionOf,
            List.replicate_succ, Transition.run_cons]

/-- A harvester which is not held up takes the whole completion. -/
theorem run_harvest {result : HarvestResult} {tag : ℕ} {completed : Completed}
    (idle : parties.harvesting = .idle) (took : duvmCompletionThread parties.dev = some result)
    (ended : result.ended = some (tag, completed)) :
    Transition.run (step model) parties (List.replicate 6 .harvesting) =
      some { parties with
        dev := result.dev
        ended := parties.ended ++ [⟨.ring, tag, completed⟩] } := by
  unfold duvmCompletionThread at took
  cases polled : duvmRingPollCompletion parties.dev.ring with
  | mk answer ring =>
      cases answer with
      | error error =>
          rw [polled] at took
          cases took
      | ok comp =>
          rw [polled] at took
          rcases duvmRingPollCompletion_eq_ok polled with ⟨pending, rfl, rfl⟩
          simp only at took
          split at took
          · cases took
            cases ended
          · next found isTag =>
              split at took
              · cases took
                cases ended
              · next rq listed =>
                  cases took
                  cases ended
                  simp [step, harvestStep, idle, pending, isTag, listed, setRing,
                    duvmFreeStagingSlot, blkMqEndRequest, List.replicate_succ,
                    Transition.run_cons]

end Alone

end Parties

end Duvm.Kmod
