import Duvm.Kmod.System
import Duvm.Library.WaitQueue

/-!
# The threads of the kernel module and the daemon

The threads of the system, down to the steps at which they wait. The daemon's
thread is `run_loop` of `duvm-daemon/src/kmod_ring.rs`: it drains the request ring
and then calls `poll` on the control device, where `duvm_ctl_poll` puts it on
`req_wait` and looks at the indices. The harvester is `duvm_completion_thread`: it
drains the completion ring and then waits on `comp_wait`. A submitter writes its
request, advances the index and calls `wake_up` afterwards; the daemon publishes a
completion and then writes to the control device, upon which `duvm_ctl_write` wakes
the harvester. Both waits end after 100 ms in any case.

The control device stays open, so the harvester is not asked to stop. Requests are
submitted one at a time: `duvm_queue_rq` is one step up to the advance of the index.
-/

namespace Duvm.Kmod

open Duvm.Daemon
open WaitQueue (Sleeper)

universe u v

/-- Where the daemon's thread is in `run_loop`. -/
inductive RunLoop where
  /-- `while !stop.load(..)` -/
  | top
  /-- `while self.poll_once(engine)` -/
  | drain
  /-- The end of `poll_once`: a byte is to be written to the control device. -/
  | notify
  /-- `libc::poll` was called. -/
  | enter
  /-- On `req_wait`, inside `poll`. -/
  | poll (sleeper : Sleeper)
  | returned
  | panicked
deriving DecidableEq

/-- Where the harvester is in `duvm_completion_thread`. -/
inductive CompletionThread where
  /-- `while (!kthread_should_stop())` -/
  | top
  /-- `while (duvm_ring_poll_completion(..) == 0)`, and whether anything was drained. -/
  | drain (drained : Bool)
  /-- `wait_event_timeout` looks before it waits. -/
  | check
  /-- On `comp_wait`. -/
  | wait (sleeper : Sleeper)
deriving DecidableEq

def RunLoop.wake : RunLoop → RunLoop
  | .poll sleeper => .poll sleeper.wake
  | other => other

def CompletionThread.wake : CompletionThread → CompletionThread
  | .wait sleeper => .wait sleeper.wake
  | other => other

/-- The system with its threads. Some submitters have advanced the index and not called `wake_up`
yet. -/
structure Threads (Engine : Type v) where
  world : World Engine
  daemon : RunLoop
  harvester : CompletionThread
  wakes : ℕ
  stop : Bool

inductive ThreadAction (Env : Type u) where
  | queueRq (tag : ℕ) (rq : Request) (fate : ℕ → MemoryFate)
  | wakeUp
  | daemon (env : Env)
  | pollExpires
  | harvester
  | waitExpires
  | timeout (tag : ℕ)
  | setStop

namespace Threads

variable {Env : Type u} {Engine : Type v}

/-- The daemon has just opened the control device. -/
def start (dev : DuvmDevice) (engine : Engine) : Threads Engine where
  world := (World.start dev engine).connected true
  daemon := .top
  harvester := .top
  wakes := 0
  stop := false

/-- What `duvm_ctl_poll` looks at. -/
def requestsReady (threads : Threads Engine) : Bool :=
  threads.world.dev.ring.reqWriteIdx ≠ threads.world.dev.ring.reqReadIdx

/-- What the harvester waits for. -/
def completionsReady (threads : Threads Engine) : Bool :=
  threads.world.dev.ring.compWriteIdx ≠ threads.world.dev.ring.compReadIdx

def daemonStep (model : EngineModel Env Engine) (threads : Threads Engine) (env : Env) :
    Option (Threads Engine) :=
  match threads.daemon with
  | .top => some { threads with daemon := if threads.stop then .returned else .drain }
  | .drain =>
      match pollOnce model env threads.world.dev.ring threads.world.engine with
      | .idle => some { threads with daemon := .enter }
      | .panicked _ => some { threads with daemon := .panicked }
      | .served execution ring engine =>
          some { threads with
            world := { threads.world with
              dev := { threads.world.dev with ring := ring }
              engine := engine
              executed := threads.world.executed ++ [execution] }
            daemon := .notify }
  | .notify =>
      some { threads with daemon := .drain, harvester := threads.harvester.wake }
  | .enter => some { threads with daemon := .poll .enter }
  | .poll sleeper =>
      match sleeper.resume threads.requestsReady with
      | none => none
      | some none => some { threads with daemon := .top }
      | some (some next) => some { threads with daemon := .poll next }
  | .returned => none
  | .panicked => none

def harvesterStep (threads : Threads Engine) : Option (Threads Engine) :=
  match threads.harvester with
  | .top => some { threads with harvester := .drain false }
  | .drain drained =>
      match duvmCompletionThread threads.world.dev with
      | none => some { threads with harvester := if drained then .top else .check }
      | some result =>
          some { threads with
            world := threads.world.harvested result
            harvester := .drain (drained || result.ended.isSome) }
  | .check =>
      some { threads with
        harvester := if threads.completionsReady then .top else .wait .enter }
  | .wait sleeper =>
      match sleeper.resume threads.completionsReady with
      | none => none
      | some none => some { threads with harvester := .top }
      | some (some next) => some { threads with harvester := .wait next }

def step (model : EngineModel Env Engine) (threads : Threads Engine) :
    ThreadAction Env → Option (Threads Engine)
  | .queueRq tag rq fate =>
      (threads.world.step model (.queueRq tag rq fate)).map fun world =>
        { threads with
          world
          wakes := threads.wakes + (world.submitted.length - threads.world.submitted.length) }
  | .wakeUp =>
      match threads.wakes with
      | 0 => none
      | wakes + 1 => some { threads with daemon := threads.daemon.wake, wakes }
  | .daemon env => threads.daemonStep model env
  | .pollExpires =>
      match threads.daemon with
      | .poll (.asleep _) => some { threads with daemon := .top }
      | _ => none
  | .harvester => threads.harvesterStep
  | .waitExpires =>
      match threads.harvester with
      | .wait (.asleep _) => some { threads with harvester := .top }
      | _ => none
  | .timeout tag =>
      (threads.world.step model (.timeout tag)).map fun world => { threads with world }
  | .setStop => some { threads with stop := true }

/-- The steps of the daemon's thread which concern nobody else. -/
inductive DaemonMoves (threads : Threads Engine) : RunLoop → Prop
  | began (atTop : threads.daemon = .top) : DaemonMoves threads .drain
  | returned (atTop : threads.daemon = .top) : DaemonMoves threads .returned
  | panicked (atDrain : threads.daemon = .drain) : DaemonMoves threads .panicked
  | drained (atDrain : threads.daemon = .drain) (empty : threads.requestsReady = false) :
      DaemonMoves threads .enter
  | entered (atEnter : threads.daemon = .enter) : DaemonMoves threads (.poll .enter)
  | looked {sleeper next : Sleeper} (polling : threads.daemon = .poll sleeper)
      (resumed : sleeper.resume threads.requestsReady = some (some next)) :
      DaemonMoves threads (.poll next)
  | left {sleeper : Sleeper} (polling : threads.daemon = .poll sleeper)
      (resumed : sleeper.resume threads.requestsReady = some none) : DaemonMoves threads .top

inductive HarvesterMoves (threads : Threads Engine) : CompletionThread → Prop
  | began (atTop : threads.harvester = .top) : HarvesterMoves threads (.drain false)
  | again (atDrain : threads.harvester = .drain true) (empty : threads.completionsReady = false) :
      HarvesterMoves threads .top
  | drained (atDrain : threads.harvester = .drain false)
      (empty : threads.completionsReady = false) : HarvesterMoves threads .check
  | found (atCheck : threads.harvester = .check) (ready : threads.completionsReady = true) :
      HarvesterMoves threads .top
  | entered (atCheck : threads.harvester = .check) (empty : threads.completionsReady = false) :
      HarvesterMoves threads (.wait .enter)
  | looked {sleeper next : Sleeper} (waiting : threads.harvester = .wait sleeper)
      (resumed : sleeper.resume threads.completionsReady = some (some next)) :
      HarvesterMoves threads (.wait next)
  | left {sleeper : Sleeper} (waiting : threads.harvester = .wait sleeper)
      (resumed : sleeper.resume threads.completionsReady = some none) :
      HarvesterMoves threads .top

/-- All that an action can do. -/
inductive Stepped (model : EngineModel Env Engine) (threads : Threads Engine) :
    ThreadAction Env → Threads Engine → Prop
  | queued {tag : ℕ} {rq : Request} {fate : ℕ → MemoryFate} {world : World Engine}
      (stepped : threads.world.step model (.queueRq tag rq fate) = some world) :
      Stepped model threads (.queueRq tag rq fate)
        { threads with
          world
          wakes := threads.wakes + (world.submitted.length - threads.world.submitted.length) }
  | woken {wakes : ℕ} (waiting : threads.wakes = wakes + 1) :
      Stepped model threads .wakeUp { threads with daemon := threads.daemon.wake, wakes }
  | daemonMoved {env : Env} {daemon : RunLoop} (moves : threads.DaemonMoves daemon) :
      Stepped model threads (.daemon env) { threads with daemon }
  | served {env : Env} {world : World Engine} {execution : Execution}
      (atDrain : threads.daemon = .drain) (ready : threads.requestsReady = true)
      (stepped : threads.world.dev.ring.daemonConnected = true →
        threads.world.step model (.pollOnce env) = some world)
      (executed : world.executed = threads.world.executed ++ [execution])
      (submitted : world.submitted = threads.world.submitted)
      (consumed : world.consumed = threads.world.consumed) :
      Stepped model threads (.daemon env) { threads with world, daemon := .notify }
  | notified {env : Env} (atNotify : threads.daemon = .notify) :
      Stepped model threads (.daemon env)
        { threads with daemon := .drain, harvester := threads.harvester.wake }
  | pollExpired {woken : Bool} (polling : threads.daemon = .poll (.asleep woken)) :
      Stepped model threads .pollExpires { threads with daemon := .top }
  | harvesterMoved {harvester : CompletionThread} (moves : threads.HarvesterMoves harvester) :
      Stepped model threads .harvester { threads with harvester }
  | harvested {world : World Engine} {before after : Bool}
      (atDrain : threads.harvester = .drain before) (ready : threads.completionsReady = true)
      (stepped : threads.world.dev.ring.daemonConnected = true →
        threads.world.step model .harvest = some world)
      (consumed : world.consumed = threads.world.consumed + 1)
      (submitted : world.submitted = threads.world.submitted)
      (executed : world.executed = threads.world.executed) :
      Stepped model threads .harvester { threads with world, harvester := .drain after }
  | waitExpired {woken : Bool} (waiting : threads.harvester = .wait (.asleep woken)) :
      Stepped model threads .waitExpires { threads with harvester := .top }
  | timedOut {tag : ℕ} {world : World Engine}
      (stepped : threads.world.step model (.timeout tag) = some world) :
      Stepped model threads (.timeout tag) { threads with world }
  | stopped : Stepped model threads .setStop { threads with stop := true }

variable {model : EngineModel Env Engine} {threads next : Threads Engine}

theorem completionThread_eq_none_iff (dev : DuvmDevice) :
    duvmCompletionThread dev = none ↔ dev.ring.compReadIdx = dev.ring.compWriteIdx := by
  unfold duvmCompletionThread duvmRingPollCompletion
  by_cases empty : dev.ring.compReadIdx = dev.ring.compWriteIdx
  · simp [empty]
  · simp only [empty, if_false, iff_false]
    split
    · simp
    · split
      · simp
      · simp

theorem pollOnce_eq_idle_iff (env : Env) (ring : DuvmRing) (engine : Engine) :
    pollOnce model env ring engine = .idle ↔ ring.reqReadIdx = ring.reqWriteIdx := by
  unfold pollOnce
  by_cases empty : ring.reqReadIdx = ring.reqWriteIdx
  · simp [empty]
  · simp only [empty, if_false, iff_false]
    split
    · split <;> simp
    · split <;> simp
    · simp

theorem requestsReady_eq_true_iff :
    threads.requestsReady = true ↔
      threads.world.dev.ring.reqReadIdx ≠ threads.world.dev.ring.reqWriteIdx := by
  rw [requestsReady, decide_eq_true_iff, ne_comm]

theorem completionsReady_eq_true_iff :
    threads.completionsReady = true ↔
      threads.world.dev.ring.compReadIdx ≠ threads.world.dev.ring.compWriteIdx := by
  rw [completionsReady, decide_eq_true_iff, ne_comm]

theorem stepped_of_daemonStep {env : Env} (stepped : threads.daemonStep model env = some next) :
    Stepped model threads (.daemon env) next := by
  unfold daemonStep at stepped
  cases isDaemon : threads.daemon with
  | top =>
      rw [isDaemon] at stepped
      cases stepped
      split
      · exact .daemonMoved (.returned isDaemon)
      · exact .daemonMoved (.began isDaemon)
  | drain =>
      rw [isDaemon] at stepped
      simp only at stepped
      cases polled : pollOnce model env threads.world.dev.ring threads.world.engine with
      | idle =>
          rw [polled] at stepped
          cases stepped
          have empty := (pollOnce_eq_idle_iff _ _ _).mp polled
          refine .daemonMoved (.drained isDaemon ?_)
          rw [← Bool.not_eq_true, requestsReady_eq_true_iff, not_not]
          exact empty
      | panicked engine =>
          rw [polled] at stepped
          cases stepped
          exact .daemonMoved (.panicked isDaemon)
      | served execution ring engine =>
          rw [polled] at stepped
          cases stepped
          refine @Stepped.served _ _ _ _ _ _ execution isDaemon ?_ ?_ rfl rfl rfl
          · rw [requestsReady_eq_true_iff]
            intro empty
            rw [(pollOnce_eq_idle_iff _ _ _).mpr empty] at polled
            cases polled
          · intro connected
            simp only [World.step, connected, if_true, polled]
  | notify =>
      rw [isDaemon] at stepped
      cases stepped
      exact .notified isDaemon
  | enter =>
      rw [isDaemon] at stepped
      cases stepped
      exact .daemonMoved (.entered isDaemon)
  | poll sleeper =>
      rw [isDaemon] at stepped
      simp only at stepped
      cases resumed : sleeper.resume threads.requestsReady with
      | none =>
          rw [resumed] at stepped
          cases stepped
      | some outcome =>
          rw [resumed] at stepped
          cases outcome with
          | none =>
              cases stepped
              exact .daemonMoved (.left isDaemon resumed)
          | some after =>
              cases stepped
              exact .daemonMoved (.looked isDaemon resumed)
  | returned =>
      rw [isDaemon] at stepped
      cases stepped
  | panicked =>
      rw [isDaemon] at stepped
      cases stepped

theorem stepped_of_harvesterStep (stepped : threads.harvesterStep = some next) :
    Stepped model threads .harvester next := by
  unfold harvesterStep at stepped
  cases isHarvester : threads.harvester with
  | top =>
      rw [isHarvester] at stepped
      cases stepped
      exact .harvesterMoved (.began isHarvester)
  | drain drained =>
      rw [isHarvester] at stepped
      simp only at stepped
      cases taken : duvmCompletionThread threads.world.dev with
      | none =>
          rw [taken] at stepped
          cases stepped
          have empty : threads.completionsReady = false := by
            rw [← Bool.not_eq_true, completionsReady_eq_true_iff, not_not]
            exact (completionThread_eq_none_iff _).mp taken
          cases drained with
          | true => exact .harvesterMoved (.again isHarvester empty)
          | false => exact .harvesterMoved (.drained isHarvester empty)
      | some result =>
          rw [taken] at stepped
          cases stepped
          refine .harvested isHarvester ?_ ?_ ?_ ?_ ?_
          · rw [completionsReady_eq_true_iff]
            intro empty
            rw [(completionThread_eq_none_iff _).mpr empty] at taken
            cases taken
          · intro connected
            simp only [World.step, connected, if_true, taken]
          · cases ended : result.ended <;> simp [World.harvested, ended]
          · cases ended : result.ended <;> simp [World.harvested, ended]
          · cases ended : result.ended <;> simp [World.harvested, ended]
  | check =>
      rw [isHarvester] at stepped
      cases stepped
      cases ready : threads.completionsReady with
      | true => exact .harvesterMoved (.found isHarvester ready)
      | false => exact .harvesterMoved (.entered isHarvester ready)
  | wait sleeper =>
      rw [isHarvester] at stepped
      simp only at stepped
      cases resumed : sleeper.resume threads.completionsReady with
      | none =>
          rw [resumed] at stepped
          cases stepped
      | some outcome =>
          rw [resumed] at stepped
          cases outcome with
          | none =>
              cases stepped
              exact .harvesterMoved (.left isHarvester resumed)
          | some after =>
              cases stepped
              exact .harvesterMoved (.looked isHarvester resumed)

theorem stepped_of_step {action : ThreadAction Env}
    (stepped : threads.step model action = some next) : Stepped model threads action next := by
  cases action with
  | queueRq tag rq fate =>
      rcases Option.map_eq_some_iff.mp stepped with ⟨world, worldStepped, rfl⟩
      exact .queued worldStepped
  | wakeUp =>
      simp only [step] at stepped
      cases waiting : threads.wakes with
      | zero =>
          rw [waiting] at stepped
          cases stepped
      | succ wakes =>
          rw [waiting] at stepped
          cases stepped
          exact .woken waiting
  | daemon env => exact stepped_of_daemonStep stepped
  | pollExpires =>
      simp only [step] at stepped
      split at stepped
      · next woken polling =>
          cases stepped
          exact .pollExpired polling
      · cases stepped
  | harvester => exact stepped_of_harvesterStep stepped
  | waitExpires =>
      simp only [step] at stepped
      split at stepped
      · next woken waiting =>
          cases stepped
          exact .waitExpired waiting
      · cases stepped
  | timeout tag =>
      rcases Option.map_eq_some_iff.mp stepped with ⟨world, worldStepped, rfl⟩
      exact .timedOut worldStepped
  | setStop =>
      cases stepped
      exact .stopped

end Threads

end Duvm.Kmod
