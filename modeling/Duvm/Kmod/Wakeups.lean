import Duvm.Kmod.Invariant
import Duvm.Kmod.Threads
import Duvm.Library.Progress

/-!
# Wake-ups between the kernel module and the daemon

The time limits of the two waits are not needed. No wake-up is lost, in any
interleaving, and when the threads have done all they can without their timers,
every request which was submitted has been ended. There is one exception: if every
tag of a queue as deep as the ring is in flight and all of them have been answered
before the harvester took the first completion, the ring looks empty to it.
-/

namespace Duvm.Kmod

open Duvm.Daemon
open WaitQueue (Sleeper)

universe u v

namespace Threads

variable {Env : Type u} {Engine : Type v} {model : EngineModel Env Engine}
  {threads next : Threads Engine}

/-- The daemon looks at its requests before it sleeps, and is woken for those which come then. -/
def DaemonCovered (threads : Threads Engine) : Prop :=
  ∀ sleeper, threads.daemon = .poll sleeper →
    sleeper.Covered (threads.world.executed.length < threads.world.submitted.length)
      (0 < threads.wakes)

/-- There are completions, and they do not fill the whole ring. -/
def Visible (world : World Engine) : Prop :=
  world.consumed < world.executed.length ∧
    world.executed.length < world.consumed + world.dev.ring.capacity

def HarvesterCovered (threads : Threads Engine) : Prop :=
  ∀ sleeper, threads.harvester = .wait sleeper →
    sleeper.Covered (Visible threads.world) (threads.daemon = .notify)

/-- What holds in every reachable state. -/
structure Live (threads : Threads Engine) : Prop where
  coherent : threads.world.Coherent
  connected : threads.world.dev.ring.daemonConnected = true
  daemon : threads.DaemonCovered
  harvester : threads.HarvesterCovered

variable {world after : World Engine} {dev : DuvmDevice} {ringEntries : ℕ}

theorem reqIdx_ne_iff (coherent : world.Coherent) :
    world.dev.ring.reqReadIdx ≠ world.dev.ring.reqWriteIdx ↔
      world.executed.length < world.submitted.length := by
  have rings := coherent.rings
  rw [rings.reqReadIdx, rings.reqWriteIdx]
  constructor
  · intro different
    apply Nat.lt_of_le_of_ne rings.executedLe
    intro same
    rw [same] at different
    exact different rfl
  · intro fewer same
    have equal := RingBuffer.eq_of_mod_eq rings.executedLe rings.cellFree same
    omega

theorem compIdx_ne_iff (coherent : world.Coherent) :
    world.dev.ring.compReadIdx ≠ world.dev.ring.compWriteIdx ↔ Visible world := by
  have rings := coherent.rings
  have behind := rings.consumedLe
  have bounded := coherent.tags.length_le
  have depth := coherent.depth
  have executedLe := rings.executedLe
  rw [World.live, List.length_drop] at bounded
  rw [rings.compReadIdx, rings.compWriteIdx, ne_comm, Ne,
    RingBuffer.mod_eq_mod_iff behind (by omega), Visible]
  omega

theorem Live.requestsReady_iff (live : threads.Live) :
    threads.requestsReady = true ↔
      threads.world.executed.length < threads.world.submitted.length := by
  rw [requestsReady_eq_true_iff, reqIdx_ne_iff live.coherent]

theorem Live.completionsReady_iff (live : threads.Live) :
    threads.completionsReady = true ↔ Visible threads.world := by
  rw [completionsReady_eq_true_iff, compIdx_ne_iff live.coherent]

theorem live_start (initialised : duvmInit ringEntries = .ok dev) (engine : Engine) :
    (start dev engine).Live where
  coherent := by
    have coherent := World.coherent_start initialised engine
    exact ⟨coherent.rings.reframe _ _ _, coherent.tags, coherent.depth⟩
  connected := rfl
  daemon := by
    intro sleeper polling
    cases polling
  harvester := by
    intro sleeper waiting
    cases waiting

/-- What a step of the block layer leaves alone. -/
structure Framed (world next : World Engine) : Prop where
  executed : next.executed = world.executed
  consumed : next.consumed = world.consumed
  submitted : world.submitted.length ≤ next.submitted.length
  capacity : next.dev.ring.capacity = world.dev.ring.capacity
  connected : next.dev.ring.daemonConnected = world.dev.ring.daemonConnected

theorem framed_of_queueRq {tag : ℕ} {rq : Request} {fate : ℕ → MemoryFate}
    (stepped : world.step model (.queueRq tag rq fate) = some after) : Framed world after := by
  cases World.stepped_of_step stepped with
  | unchanged => exact ⟨rfl, rfl, le_refl _, rfl, rfl⟩
  | refused => exact ⟨rfl, rfl, le_refl _, rfl, rfl⟩
  | accepted submission => exact ⟨rfl, rfl, by simp [World.accepted], rfl, rfl⟩
  | written => exact ⟨rfl, rfl, le_refl _, rfl, rfl⟩
  | read => exact ⟨rfl, rfl, le_refl _, rfl, rfl⟩

theorem timeout_frames {tag : ℕ} (stepped : world.step model (.timeout tag) = some after) :
    Framed world after ∧ after.submitted = world.submitted := by
  cases World.stepped_of_step stepped with
  | unchanged _ noTimeout => exact absurd rfl (noTimeout tag)
  | timedOut => exact ⟨⟨rfl, rfl, le_refl _, rfl, rfl⟩, rfl⟩

theorem connected_of_pollOnce {env : Env}
    (stepped : world.step model (.pollOnce env) = some after) :
    after.dev.ring.daemonConnected = world.dev.ring.daemonConnected := by
  cases World.stepped_of_step stepped <;> rfl

theorem connected_of_harvest (stepped : world.step model .harvest = some after) :
    after.dev.ring.daemonConnected = world.dev.ring.daemonConnected := by
  cases World.stepped_of_step stepped <;> rfl

theorem DaemonMoves.daemon_ne_notify {daemon : RunLoop} (moves : threads.DaemonMoves daemon) :
    threads.daemon ≠ .notify := by
  cases moves with
  | began atTop => simp [atTop]
  | returned atTop => simp [atTop]
  | panicked atDrain => simp [atDrain]
  | drained atDrain => simp [atDrain]
  | entered atEnter => simp [atEnter]
  | looked polling => simp [polling]
  | left polling => simp [polling]

theorem Live.stepped {action : ThreadAction Env} (live : threads.Live)
    (stepped : Stepped model threads action next) : next.Live := by
  cases stepped with
  | queued worldStepped =>
      have framed := framed_of_queueRq worldStepped
      refine ⟨live.coherent.stepped (World.stepped_of_step worldStepped),
        framed.connected.trans live.connected, ?_, ?_⟩
      · intro sleeper polling isAsleep ready
        have before := live.daemon sleeper polling isAsleep
        have longer := framed.submitted
        simp only [framed.executed] at ready before ⊢
        omega
      · intro sleeper waiting isAsleep ready
        apply live.harvester sleeper waiting isAsleep
        simpa [Visible, framed.executed, framed.consumed, framed.capacity] using ready
  | woken waiting =>
      refine ⟨live.coherent, live.connected, ?_, ?_⟩
      · intro sleeper polling
        cases isDaemon : threads.daemon with
        | poll before =>
            simp only [isDaemon, RunLoop.wake, RunLoop.poll.injEq] at polling
            rw [← polling]
            exact Sleeper.covered_wake
        | top => simp [isDaemon, RunLoop.wake] at polling
        | drain => simp [isDaemon, RunLoop.wake] at polling
        | notify => simp [isDaemon, RunLoop.wake] at polling
        | enter => simp [isDaemon, RunLoop.wake] at polling
        | returned => simp [isDaemon, RunLoop.wake] at polling
        | panicked => simp [isDaemon, RunLoop.wake] at polling
      · intro sleeper isWaiting isAsleep ready
        have notifying := live.harvester sleeper isWaiting isAsleep ready
        simp only [notifying, RunLoop.wake]
  | daemonMoved moves =>
      refine ⟨live.coherent, live.connected, ?_, ?_⟩
      · intro sleeper polling
        cases moves with
        | entered =>
            cases polling
            exact Sleeper.covered_enter
        | looked wasPolling resumed =>
            cases polling
            exact Sleeper.covered_resume live.requestsReady_iff.mpr resumed
        | began | returned | panicked | drained | left => cases polling
      · intro sleeper waiting isAsleep ready
        exact absurd (live.harvester sleeper waiting isAsleep ready) moves.daemon_ne_notify
  | served atDrain ready worldStepped executed submitted consumed =>
      have worldStep := worldStepped live.connected
      refine ⟨live.coherent.stepped (World.stepped_of_step worldStep),
        (connected_of_pollOnce worldStep).trans live.connected, ?_, ?_⟩
      · intro sleeper polling
        cases polling
      · intro sleeper waiting isAsleep isReady
        rfl
  | notified atNotify =>
      refine ⟨live.coherent, live.connected, ?_, ?_⟩
      · intro sleeper polling
        cases polling
      · intro sleeper waiting
        cases isHarvester : threads.harvester with
        | wait before =>
            simp only [isHarvester, CompletionThread.wake, CompletionThread.wait.injEq] at waiting
            rw [← waiting]
            exact Sleeper.covered_wake
        | top => simp [isHarvester, CompletionThread.wake] at waiting
        | drain drained => simp [isHarvester, CompletionThread.wake] at waiting
        | check => simp [isHarvester, CompletionThread.wake] at waiting
  | pollExpired polling =>
      refine ⟨live.coherent, live.connected, ?_, ?_⟩
      · intro sleeper isPolling
        cases isPolling
      · intro sleeper waiting isAsleep ready
        have notifying := live.harvester sleeper waiting isAsleep ready
        simp [notifying] at polling
  | harvesterMoved moves =>
      refine ⟨live.coherent, live.connected, live.daemon, ?_⟩
      intro sleeper waiting
      cases moves with
      | entered =>
          cases waiting
          exact Sleeper.covered_enter
      | looked wasWaiting resumed =>
          cases waiting
          exact Sleeper.covered_resume live.completionsReady_iff.mpr resumed
      | began | again | drained | found | left => cases waiting
  | harvested atDrain ready worldStepped consumed submitted executed =>
      have worldStep := worldStepped live.connected
      refine ⟨live.coherent.stepped (World.stepped_of_step worldStep),
        (connected_of_harvest worldStep).trans live.connected, ?_, ?_⟩
      · intro sleeper polling isAsleep isReady
        apply live.daemon sleeper polling isAsleep
        simpa [executed, submitted] using isReady
      · intro sleeper waiting
        cases waiting
  | waitExpired waiting =>
      refine ⟨live.coherent, live.connected, live.daemon, ?_⟩
      intro sleeper isWaiting
      cases isWaiting
  | timedOut worldStepped =>
      rcases timeout_frames worldStepped with ⟨framed, submitted⟩
      refine ⟨live.coherent.stepped (World.stepped_of_step worldStepped),
        framed.connected.trans live.connected, ?_, ?_⟩
      · intro sleeper polling isAsleep isReady
        apply live.daemon sleeper polling isAsleep
        simpa [framed.executed, submitted] using isReady
      · intro sleeper waiting isAsleep ready
        apply live.harvester sleeper waiting isAsleep
        simpa [Visible, framed.executed, framed.consumed, framed.capacity] using ready
  | stopped => exact ⟨live.coherent, live.connected, live.daemon, live.harvester⟩

theorem live_of_run {engine : Engine} {actions : List (ThreadAction Env)}
    (initialised : duvmInit ringEntries = .ok dev)
    (ran : Transition.run (step model) (start dev engine) actions = some threads) :
    threads.Live := by
  refine Transition.run_invariant (live_start initialised engine) ?_ ran
  intro current action after live stepped
  exact live.stepped (stepped_of_step stepped)

/-- The threads do nothing which the three parties could not do. -/
theorem exists_world_run {engine : Engine} {actions : List (ThreadAction Env)}
    (initialised : duvmInit ringEntries = .ok dev)
    (ran : Transition.run (step model) (start dev engine) actions = some threads) :
    ∃ worldActions, Transition.run (World.step model) (.start dev engine) worldActions =
      some threads.world := by
  have invariant : threads.Live ∧ ∃ worldActions,
      Transition.run (World.step model) (.start dev engine) worldActions =
        some threads.world := by
    refine @Transition.run_invariant _ _ (step model) (fun threads => threads.Live ∧
      ∃ worldActions, Transition.run (World.step model) (.start dev engine) worldActions =
        some threads.world) _ _ _ ?_ ?_ ran
    · refine ⟨live_start initialised engine, [.ctlOpen true], ?_⟩
      rcases duvmInit_eq_ok initialised with ⟨_, rfl⟩
      rfl
    · rintro current action after ⟨live, worldActions, worldRan⟩ stepped
      have taken := stepped_of_step stepped
      refine ⟨live.stepped taken, ?_⟩
      have onward : ∀ {worldAction world}, current.world.step model worldAction = some world →
          ∃ longer, Transition.run (World.step model) (.start dev engine) longer =
            some world := by
        intro worldAction world worldStepped
        refine ⟨worldActions ++ [worldAction], ?_⟩
        rw [Transition.run_concat, worldRan]
        exact worldStepped
      cases taken with
      | queued worldStepped => exact onward worldStepped
      | served _ _ worldStepped => exact onward (worldStepped live.connected)
      | harvested _ _ worldStepped => exact onward (worldStepped live.connected)
      | timedOut worldStepped => exact onward worldStepped
      | woken => exact ⟨worldActions, worldRan⟩
      | daemonMoved => exact ⟨worldActions, worldRan⟩
      | notified => exact ⟨worldActions, worldRan⟩
      | pollExpired => exact ⟨worldActions, worldRan⟩
      | harvesterMoved => exact ⟨worldActions, worldRan⟩
      | waitExpired => exact ⟨worldActions, worldRan⟩
      | stopped => exact ⟨worldActions, worldRan⟩
  exact invariant.2

end Threads

/-- How often the daemon's thread can go on before it sleeps or serves a request. -/
def RunLoop.rank (ready : Bool) : RunLoop → ℕ
  | .top => if ready then 2 else 6
  | .drain => if ready then 1 else 5
  | .notify => 8
  | .enter => 4
  | .poll sleeper => sleeper.rank ready + if ready then 2 else 0
  | .returned => 0
  | .panicked => 0

def CompletionThread.rank (ready : Bool) : CompletionThread → ℕ
  | .top => if ready then 1 else 6
  | .drain drained => if ready then 0 else if drained then 7 else 5
  | .check => if ready then 2 else 4
  | .wait sleeper => sleeper.rank ready + if ready then 1 else 0

theorem RunLoop.rank_le (ready : Bool) (daemon : RunLoop) : daemon.rank ready ≤ 8 := by
  cases daemon with
  | poll sleeper =>
      have bounded := sleeper.rank_le ready
      cases ready <;> simp only [rank, if_true, Bool.false_eq_true, if_false] <;> omega
  | top | drain | notify | enter | returned | panicked => cases ready <;> simp [rank]

theorem CompletionThread.rank_le (ready : Bool) (harvester : CompletionThread) :
    harvester.rank ready ≤ 7 := by
  cases harvester with
  | wait sleeper =>
      have bounded := sleeper.rank_le ready
      cases ready <;> simp only [rank, if_true, Bool.false_eq_true, if_false] <;> omega
  | drain drained => cases ready <;> cases drained <;> simp [rank]
  | top | check => cases ready <;> simp [rank]

theorem RunLoop.rank_wake (ready : Bool) (daemon : RunLoop) :
    daemon.wake.rank ready ≤ daemon.rank ready + 2 := by
  cases daemon with
  | poll sleeper =>
      have bounded := sleeper.rank_wake ready
      simp only [wake, rank]
      omega
  | top | drain | notify | enter | returned | panicked => exact Nat.le_add_right _ _

theorem CompletionThread.rank_wake (ready : Bool) (harvester : CompletionThread) :
    harvester.wake.rank ready ≤ harvester.rank ready + 2 := by
  cases harvester with
  | wait sleeper =>
      have bounded := sleeper.rank_wake ready
      simp only [wake, rank]
      omega
  | top | drain | check => exact Nat.le_add_right _ _

namespace Threads

variable {Env : Type u} {Engine : Type v} {model : EngineModel Env Engine}
  {threads next : Threads Engine}

/-- What the threads do by themselves, without their timers. -/
def Own : ThreadAction Env → Prop
  | .wakeUp => True
  | .daemon _ => True
  | .harvester => True
  | _ => False

def cost (threads : Threads Engine) : ℕ :=
  24 * (threads.world.submitted.length - threads.world.executed.length) +
    8 * (threads.world.executed.length - threads.world.consumed) + 3 * threads.wakes +
    threads.daemon.rank threads.requestsReady +
    threads.harvester.rank threads.completionsReady

theorem DaemonMoves.rank_lt {daemon : RunLoop} (moves : threads.DaemonMoves daemon) :
    daemon.rank threads.requestsReady < threads.daemon.rank threads.requestsReady := by
  cases moves with
  | began atTop => cases threads.requestsReady <;> simp [atTop, RunLoop.rank]
  | returned atTop => cases threads.requestsReady <;> simp [atTop, RunLoop.rank]
  | panicked atDrain => cases threads.requestsReady <;> simp [atDrain, RunLoop.rank]
  | drained atDrain empty => simp [atDrain, empty, RunLoop.rank]
  | entered atEnter =>
      cases threads.requestsReady <;> simp [atEnter, RunLoop.rank, Sleeper.enter, Sleeper.rank]
  | looked polling resumed =>
      have falls := Sleeper.rank_resume resumed
      simp only [polling, RunLoop.rank]
      omega
  | left polling resumed =>
      have positive := Sleeper.rank_pos_of_leaving resumed
      rw [Sleeper.ready_of_leaving resumed] at positive ⊢
      simp only [polling, RunLoop.rank, if_true]
      omega

theorem HarvesterMoves.rank_lt {harvester : CompletionThread}
    (moves : threads.HarvesterMoves harvester) :
    harvester.rank threads.completionsReady <
      threads.harvester.rank threads.completionsReady := by
  cases moves with
  | began atTop => cases threads.completionsReady <;> simp [atTop, CompletionThread.rank]
  | again atDrain empty => simp [atDrain, empty, CompletionThread.rank]
  | drained atDrain empty => simp [atDrain, empty, CompletionThread.rank]
  | found atCheck ready => simp [atCheck, ready, CompletionThread.rank]
  | entered atCheck empty =>
      simp [atCheck, empty, CompletionThread.rank, Sleeper.enter, Sleeper.rank]
  | looked waiting resumed =>
      have falls := Sleeper.rank_resume resumed
      simp only [waiting, CompletionThread.rank]
      omega
  | left waiting resumed =>
      have positive := Sleeper.rank_pos_of_leaving resumed
      rw [Sleeper.ready_of_leaving resumed] at positive ⊢
      simp only [waiting, CompletionThread.rank, if_true]
      omega

/-- A request which is served costs less than it did before, although the harvester may have to
look again. -/
theorem Live.cost_lt_of_served (live : threads.Live) (atDrain : threads.daemon = .drain)
    (ready : threads.requestsReady = true) (notifies : next.daemon = .notify)
    (executed : next.world.executed.length = threads.world.executed.length + 1)
    (submitted : next.world.submitted.length = threads.world.submitted.length)
    (consumed : next.world.consumed = threads.world.consumed)
    (wakes : next.wakes = threads.wakes) : next.cost < threads.cost := by
  have pending := live.requestsReady_iff.mp ready
  have behind := live.coherent.rings.consumedLe
  have wasDraining : threads.daemon.rank threads.requestsReady = 1 := by
    simp [atDrain, ready, RunLoop.rank]
  have notifying : next.daemon.rank next.requestsReady = 8 := by
    simp [notifies, RunLoop.rank]
  have bounded := CompletionThread.rank_le next.completionsReady next.harvester
  rw [cost, cost, notifying, wasDraining, executed, submitted, consumed, wakes]
  omega

theorem Live.cost_lt_of_harvested (live : threads.Live) (after : next.Live)
    (ready : threads.completionsReady = true)
    (consumed : next.world.consumed = threads.world.consumed + 1)
    (submitted : next.world.submitted.length = threads.world.submitted.length)
    (executed : next.world.executed.length = threads.world.executed.length)
    (daemon : next.daemon = threads.daemon) (wakes : next.wakes = threads.wakes) :
    next.cost < threads.cost := by
  have unread := (live.completionsReady_iff.mp ready).1
  have bounded := CompletionThread.rank_le next.completionsReady next.harvester
  have sameReady : next.requestsReady = threads.requestsReady := by
    rw [Bool.eq_iff_iff, after.requestsReady_iff, live.requestsReady_iff, executed, submitted]
  rw [cost, cost, sameReady, daemon, executed, submitted, consumed, wakes]
  omega

/-- Whatever the threads do by themselves brings them closer to rest. -/
theorem Live.cost_lt {action : ThreadAction Env} (live : threads.Live) (own : Own action)
    (stepped : Stepped model threads action next) : next.cost < threads.cost := by
  have after := live.stepped stepped
  cases stepped with
  | queued => exact own.elim
  | pollExpired => exact own.elim
  | waitExpired => exact own.elim
  | timedOut => exact own.elim
  | stopped => exact own.elim
  | @woken wakes waiting =>
      have raised := RunLoop.rank_wake threads.requestsReady threads.daemon
      simp only [cost, waiting, requestsReady, completionsReady] at raised ⊢
      omega
  | daemonMoved moves =>
      have falls := moves.rank_lt
      simp only [cost, requestsReady, completionsReady] at falls ⊢
      omega
  | served atDrain ready _ executed submitted consumed =>
      refine live.cost_lt_of_served atDrain ready rfl ?_ (congrArg List.length submitted) consumed
        rfl
      simp [executed]
  | notified atNotify =>
      have raised := CompletionThread.rank_wake threads.completionsReady threads.harvester
      have draining : RunLoop.drain.rank threads.requestsReady ≤ 5 := by
        cases threads.requestsReady <;> simp [RunLoop.rank]
      have wasNotifying : threads.daemon.rank threads.requestsReady = 8 := by
        simp [atNotify, RunLoop.rank]
      simp only [cost, requestsReady, completionsReady] at raised draining wasNotifying ⊢
      omega
  | harvesterMoved moves =>
      have falls := moves.rank_lt
      simp only [cost, requestsReady, completionsReady] at falls ⊢
      omega
  | harvested atDrain ready _ consumed submitted executed =>
      exact live.cost_lt_of_harvested after ready consumed (congrArg List.length submitted)
        (congrArg List.length executed) rfl rfl

theorem descends_cost : Transition.Descends (step model) Own Live cost where
  keeps live _ stepped := live.stepped (stepped_of_step stepped)
  falls live own stepped := live.cost_lt own (stepped_of_step stepped)

theorem Live.cost_le (live : threads.Live) :
    threads.cost ≤ 24 * threads.world.live.length + 3 * threads.wakes + 15 := by
  have behind := live.coherent.rings.consumedLe
  have within := live.coherent.rings.executedLe
  have first := RunLoop.rank_le threads.requestsReady threads.daemon
  have second := CompletionThread.rank_le threads.completionsReady threads.harvester
  rw [cost, World.live, List.length_drop]
  omega

/-- Everything that was submitted has been ended; or every tag is in flight and has been answered,
and the harvester does not see it; or the daemon's thread is gone. -/
def Settled (threads : Threads Engine) : Prop :=
  threads.daemon = .returned ∨ threads.daemon = .panicked ∨ threads.world.live = [] ∨
    threads.world.executed.length = threads.world.submitted.length ∧
      threads.world.live.length = threads.world.dev.ring.capacity

theorem daemon_of_quiet {env : Env} (quiet : threads.daemonStep model env = none) :
    threads.daemon = .returned ∨ threads.daemon = .panicked ∨
      threads.daemon = .poll (.asleep false) := by
  unfold daemonStep at quiet
  cases isDaemon : threads.daemon with
  | returned => exact Or.inl rfl
  | panicked => exact Or.inr (Or.inl rfl)
  | poll sleeper =>
      rw [isDaemon] at quiet
      simp only at quiet
      split at quiet
      · next asleep =>
          rw [Sleeper.resume_eq_none_iff.mp asleep]
          exact Or.inr (Or.inr rfl)
      · cases quiet
      · cases quiet
  | drain =>
      rw [isDaemon] at quiet
      simp only at quiet
      split at quiet <;> cases quiet
  | top | notify | enter =>
      rw [isDaemon] at quiet
      cases quiet

theorem harvester_of_quiet (quiet : threads.harvesterStep = none) :
    threads.harvester = .wait (.asleep false) := by
  unfold harvesterStep at quiet
  cases isHarvester : threads.harvester with
  | wait sleeper =>
      rw [isHarvester] at quiet
      simp only at quiet
      split at quiet
      · next asleep => rw [Sleeper.resume_eq_none_iff.mp asleep]
      · cases quiet
      · cases quiet
  | drain drained =>
      rw [isHarvester] at quiet
      simp only at quiet
      split at quiet <;> cases quiet
  | top | check =>
      rw [isHarvester] at quiet
      cases quiet

/-- Threads which are at rest have done their work. -/
theorem Live.settled_of_quiet [Inhabited Env] (live : threads.Live)
    (quiet : Transition.Quiet (step model) Own threads) : threads.Settled := by
  have noWakes : threads.wakes = 0 := by
    have isNone := quiet .wakeUp trivial
    simp only [step] at isNone
    split at isNone
    · next isZero => exact isZero
    · cases isNone
  have waiting := harvester_of_quiet (quiet .harvester trivial)
  rcases daemon_of_quiet (quiet (.daemon default) trivial) with returned | panicked | polling
  · exact Or.inl returned
  · exact Or.inr (Or.inl panicked)
  · right
    right
    have rings := live.coherent.rings
    have behind := rings.consumedLe
    have within := rings.executedLe
    have bounded := live.coherent.tags.length_le
    have depth := live.coherent.depth
    have noRequest : ¬threads.world.executed.length < threads.world.submitted.length := by
      intro pending
      have waking := live.daemon _ polling rfl pending
      omega
    have noCompletion : ¬Visible threads.world := by
      intro visible
      have notifying := live.harvester _ waiting rfl visible
      rw [polling] at notifying
      cases notifying
    rw [Visible] at noCompletion
    rw [World.live, List.length_drop] at bounded
    rw [World.live, List.drop_eq_nil_iff, List.length_drop]
    omega

theorem quiet_of_asleep (polling : threads.daemon = .poll (.asleep false))
    (waiting : threads.harvester = .wait (.asleep false)) (noWakes : threads.wakes = 0) :
    Transition.Quiet (step model) Own threads := by
  intro action own
  cases action with
  | wakeUp => simp [step, noWakes]
  | daemon env => simp [step, daemonStep, polling, Sleeper.resume]
  | harvester => simp [step, harvesterStep, waiting, Sleeper.resume]
  | queueRq | pollExpires | waitExpires | timeout | setStop => exact own.elim

end Threads

open Threads in
/-- No wake-up is lost, in any interleaving of the submitters, the daemon and the harvester, with
timers or without: when the daemon sleeps on a request, a submitter is about to wake it; when the
harvester sleeps on a completion, the daemon is. A submitter makes two steps: `duvm_queue_rq` up to
the publication of the request, and the wake-up. -/
theorem no_wakeup_lost {Env : Type u} {Engine : Type v} (model : EngineModel Env Engine)
    (ringEntries : ℕ) {dev : DuvmDevice} (initialised : duvmInit ringEntries = .ok dev)
    (engine : Engine) (actions : List (ThreadAction Env)) {threads : Threads Engine}
    (ran : Transition.run (step model) (start dev engine) actions = some threads) :
    (threads.daemon = .poll (.asleep false) → threads.requestsReady = true →
      0 < threads.wakes) ∧
    (threads.harvester = .wait (.asleep false) → threads.completionsReady = true →
      threads.daemon = .notify) := by
  have live := live_of_run initialised ran
  constructor
  · intro polling ready
    exact live.daemon _ polling rfl (live.requestsReady_iff.mp ready)
  · intro waiting ready
    exact live.harvester _ waiting rfl (live.completionsReady_iff.mp ready)

/-- The daemon goes to sleep, and then a request comes. -/
def requestForSleeper : List (ThreadAction Bool) :=
  List.replicate 4 (.daemon true) ++
    [.queueRq 0 (Request.ofPage 0 .write (.filled 7)) noMemory]

theorem requestForSleeper_wakes :
    ∃ dev threads, duvmInit 4 = .ok dev ∧
      Transition.run (Threads.step plainModel) (.start dev fun _ => none) requestForSleeper =
        some threads ∧
      threads.daemon = .poll (.asleep false) ∧ threads.requestsReady = true ∧
      0 < threads.wakes :=
  ⟨_, _, rfl, rfl, rfl, rfl, (no_wakeup_lost plainModel 4 rfl _ requestForSleeper rfl).1 rfl rfl⟩

open Threads in
/-- The timers are not needed when requests are submitted one at a time and the control device
stays open. From every reachable state the threads come to rest by themselves, in whichever order
they run and after a number of steps which is linear in the requests in flight, and then everything
that was submitted has been ended, unless the daemon has returned or panicked, or all the tags were
answered before the first of them was harvested. -/
theorem comes_to_rest_without_timers {Env : Type u} [Inhabited Env] {Engine : Type v}
    (model : EngineModel Env Engine) (ringEntries : ℕ) {dev : DuvmDevice}
    (initialised : duvmInit ringEntries = .ok dev) (engine : Engine)
    (actions : List (ThreadAction Env)) {threads : Threads Engine}
    (ran : Transition.run (step model) (start dev engine) actions = some threads) :
    (∃ schedule final, (∀ action ∈ schedule, Own action) ∧
      Transition.run (step model) threads schedule = some final ∧
      Transition.Quiet (step model) Own final) ∧
    ∀ schedule final, (∀ action ∈ schedule, Own action) →
      Transition.run (step model) threads schedule = some final →
      schedule.length ≤ 24 * threads.world.live.length + 3 * threads.wakes + 15 ∧
      (Transition.Quiet (step model) Own final → final.Settled) := by
  have live := live_of_run initialised ran
  refine ⟨descends_cost.exists_quiet live, ?_⟩
  intro schedule final own goesOn
  constructor
  · have counted := descends_cost.length_le live own goesOn
    have bounded := live.cost_le
    omega
  · intro quiet
    have reached : Transition.run (step model) (start dev engine) (actions ++ schedule) =
        some final := by
      rw [Transition.run_append, ran]
      exact goesOn
    exact (live_of_run initialised reached).settled_of_quiet quiet

/-- The daemon is woken, serves the request, and everybody goes to sleep. -/
def requestIsEnded : List (ThreadAction Bool) :=
  [.wakeUp] ++ List.replicate 8 (.daemon true) ++ List.replicate 7 .harvester

theorem requestForSleeper_comes_to_rest :
    ∃ dev threads final, duvmInit 4 = .ok dev ∧
      Transition.run (Threads.step plainModel) (.start dev fun _ => none) requestForSleeper =
        some threads ∧ threads.world.live.length = 1 ∧
      Transition.run (Threads.step plainModel) threads requestIsEnded = some final ∧
      requestIsEnded.length ≤ 24 * threads.world.live.length + 3 * threads.wakes + 15 ∧
      final.Settled ∧ final.world.live = [] := by
  have ran : ∃ dev threads final, duvmInit 4 = .ok dev ∧
      Transition.run (Threads.step plainModel) (.start dev fun _ => none) requestForSleeper =
        some threads ∧ threads.world.live.length = 1 ∧
      Transition.run (Threads.step plainModel) threads requestIsEnded = some final ∧
      final.daemon = .poll (.asleep false) ∧ final.harvester = .wait (.asleep false) ∧
      final.wakes = 0 ∧ final.world.live = [] :=
    ⟨_, _, _, rfl, rfl, rfl, rfl, rfl, rfl, rfl, rfl⟩
  rcases ran with ⟨dev, threads, final, initialised, reached, oneLive, goesOn, polling, waiting,
    noWakes, ended⟩
  have own : ∀ action ∈ requestIsEnded, Threads.Own action := by
    simp [requestIsEnded, Threads.Own]
  have rests := (comes_to_rest_without_timers plainModel 4 initialised _ requestForSleeper
    reached).2 requestIsEnded final own goesOn
  exact ⟨dev, threads, final, initialised, reached, oneLive, goesOn, rests.1,
    rests.2 (Threads.quiet_of_asleep polling waiting noWakes), ended⟩

end Duvm.Kmod
