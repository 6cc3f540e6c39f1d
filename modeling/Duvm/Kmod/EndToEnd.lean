import Duvm.Daemon.Started
import Duvm.Kmod.Durability

/-!
# The swap device over the daemon's engine

The parts are put together here: the block layer and the harvester of the kernel
module, the ring, the daemon which polls it, and the engine with its backends.
The engine may lose pages, by evicting them, by failing a store after it has
given up the old page, and by losing a memory server. What it never does is
return another page than the one stored last. `Simulates` says this about any
engine; it carries over to what the block layer sees, where a page which was lost
is a READ that fails, and never a READ of other data.
-/

namespace Duvm.Kmod

open Function (update)
open Duvm.Daemon

universe u v

section Traces

variable {Env : Type u} {Engine : Type v} {model : EngineModel Env Engine}
  {Sound : Engine → Prop} {Holds : Engine → (UInt64 → Option PageBuffer) → Prop}

theorem holds_of_executes (simulates : Simulates model Sound Holds) {engine next : Engine}
    {executed : List Execution} {execution : Execution}
    (holds : Holds engine (storedPage executed))
    (executes : Executes model engine execution next) :
    Holds next (storedPage (executed ++ [execution])) ∧
      (Sound next → Sound engine ∧ ∀ page, execution.returned = some page →
        storedPage executed execution.request.offset = some page) := by
  have unstored : (∀ page, Execution.stores page execution = false) →
      storedPage (executed ++ [execution]) = storedPage executed := by
    intro none
    funext page
    rw [storedPage_concat, none page, if_neg Bool.false_ne_true]
  cases executes with
  | @stored request page handle next env isStore call =>
      have updated : storedPage (executed ++ [⟨request, some page, none, 0⟩]) =
          update (storedPage executed) request.offset (some page) := by
        funext other
        rw [storedPage_concat, Function.update_apply]
        simp [Execution.stores, isStore, eq_comm]
      have after := simulates.stored holds call
      rw [updated]
      exact ⟨after.1, fun sound => ⟨after.2 sound, by simp⟩⟩
  | storeFailed env isStore call =>
      have after := simulates.refused holds call
      rw [unstored (by simp [Execution.stores])]
      exact ⟨after.1, fun sound => ⟨after.2 sound, by simp⟩⟩
  | loaded env isLoad call =>
      have after := simulates.loaded holds call
      rw [unstored (by simp [Execution.stores, isLoad])]
      refine ⟨after.1, fun sound => ⟨(after.2 sound).1, ?_⟩⟩
      rintro page isPage
      rw [← Option.some.inj isPage]
      exact (after.2 sound).2
  | loadFailed env isLoad call =>
      have after := simulates.missed holds call
      rw [unstored (by simp [Execution.stores])]
      exact ⟨after.1, fun sound => ⟨after.2 sound, by simp⟩⟩
  | unknown notStore notLoad =>
      rw [unstored (by simp [Execution.stores])]
      exact ⟨holds, fun sound => ⟨sound, by simp⟩⟩

/-- Along a trace every page which was returned is the one stored last. -/
theorem loads_of_trace (simulates : Simulates model Sound Holds) {initial engine : Engine}
    {executed : List Execution} (trace : Trace model initial executed engine)
    (empty : Holds initial fun _ => none) :
    Holds engine (storedPage executed) ∧
      (Sound engine → ∀ (index : ℕ) (execution : Execution) (page : PageBuffer),
        executed[index]? = some execution → execution.returned = some page →
        storedPage (executed.take index) execution.request.offset = some page) := by
  induction trace with
  | nil => exact ⟨empty, by simp⟩
  | snoc earlier executes ih =>
      rcases ih with ⟨holds, loads⟩
      rcases holds_of_executes simulates holds executes with ⟨stillHolds, returns⟩
      refine ⟨stillHolds, ?_⟩
      intro sound index execution page listed returned
      rcases returns sound with ⟨wasSound, last⟩
      rcases Log.old_or_new listed with old | ⟨rfl, rfl⟩
      · rw [List.take_append_of_le_length (Log.index_lt old).le]
        exact loads wasSound index execution page old returned
      · rw [List.take_left]
        exact last page returned

end Traces

/-- Every READ which succeeded returned the data of the WRITE of its page which succeeded last,
and there was one. -/
def ReadsBack (log : List Ending) : Prop :=
  ∀ (index : ℕ) (ending : Ending), log[index]? = some ending →
    ending.completed.rq.dir = .read → ending.completed.status = .ok →
    ∃ write, lastWrite (log.take index) ending.completed.rq.index = some write ∧
      ending.completed.rq.bytes = write.completed.rq.bytes

namespace World

variable {Env : Type u} {Engine : Type v} {model : EngineModel Env Engine} {initial : Engine}
  {world : World Engine}

/-- What the harvester has delivered of a page is what the daemon has executed. -/
theorem Staged.delivered (staged : world.Staged model initial) {count : ℕ}
    (within : count ≤ world.harvests.length) (page : UInt64) :
    (lastWrite (world.harvests.take count) page).map (·.completed.rq.bytes) =
      (storedPage (world.executed.take count) page).map Vector.toList := by
  induction count with
  | zero => rfl
  | succ count ih =>
      have before := ih (by omega)
      have listed := List.getElem?_eq_getElem within
      rcases staged.endings count _ listed with
        ⟨submission, execution, submitted, executed, endedWith⟩
      have executedFor := staged.executions count submission execution submitted executed
      have harvestsTaken : world.harvests.take (count + 1) =
          world.harvests.take count ++ [world.harvests[count]] := by
        rw [List.take_add_one, listed]
        rfl
      have executedTaken : world.executed.take (count + 1) =
          world.executed.take count ++ [execution] := by
        rw [List.take_add_one, executed]
        rfl
      rw [harvestsTaken, executedTaken, lastWrite_concat, storedPage_concat,
        ← endedWith.writes_eq executedFor page]
      split
      · next writes => exact endedWith.bytes_of_writes executedFor writes
      · exact before

theorem Staged.readsBack {Sound : Engine → Prop}
    {Holds : Engine → (UInt64 → Option PageBuffer) → Prop}
    (staged : world.Staged model initial) (simulates : Simulates model Sound Holds)
    (empty : Holds initial fun _ => none) (sound : Sound world.engine) :
    ReadsBack world.harvests := by
  intro index ending listed isRead succeeded
  rcases staged.endings index ending listed with
    ⟨submission, execution, submitted, executed, endedWith⟩
  have executedFor := staged.executions index submission execution submitted executed
  have direction : submission.rq.dir = .read := endedWith.dir.symm.trans isRead
  have result : execution.result = 0 := by
    by_contra failed
    have status := endedWith.status
    rw [succeeded, if_neg failed] at status
    simp at status
  rcases endedWith.read direction result with ⟨page, returned, bytes⟩
  have held := (loads_of_trace simulates staged.trace empty).2 sound index execution page executed
    returned
  have delivered := staged.delivered (Log.index_lt listed).le execution.request.offset
  have sameIndex : ending.completed.rq.index = execution.request.offset := by
    rw [Request.index, endedWith.pos, executedFor.request]
    rfl
  rw [held, Option.map_some, Option.map_eq_some_iff] at delivered
  rcases delivered with ⟨write, isLast, wrote⟩
  rw [sameIndex]
  exact ⟨write, isLast, bytes.trans wrote.symm⟩

end World

open World in
/-- Over the ring, a READ from the swap device returns the data of the WRITE which succeeded last,
or it fails, whichever backends except over RDMA the daemon was started with: in every interleaving
of the calls of the block layer, which submits one request at a time, the daemon and the harvester,
whatever the engine evicts, and however often the memory servers restart, as long as no server has
another client or has given out more offsets than there are. What is served without a daemon is not
among the harvests. -/
theorem reads_back_through_started_daemon {codec : Lz4} {checked : Bool} {env : StartupEnv}
    {config : DaemonConfig} {engine : Engine (AnyBackend codec)} {built : List (Built codec)}
    (started : Engine.new codec checked env config = .ok (engine, built))
    (servers : ∀ calls server fates, env.tcpInit calls = some (server, fates) →
      ∃ serverPages, server = .start serverPages)
    (noRdma : ∀ entry ∈ built, entry.isRdma = false) (ringEntries : ℕ) {dev : DuvmDevice}
    (initialised : duvmInit ringEntries = .ok dev) (actions : List (Action CallEnv))
    (pages : ∀ action ∈ actions, PagesOnly action) {final : World (Engine (AnyBackend codec))}
    (ran : Transition.run (step Engine.model) (start dev engine) actions = some final)
    (few : ∀ id link, final.engine.backends.lookup id = some (.inr (.inr link)) →
      link.server.granted ≤ 2 ^ 64) : ReadsBack final.harvests := by
  have staged := staged_of_run initialised pages ran
  exact staged.readsBack Engine.simulates_custody
    ⟨_, backs_nothing_of_new started servers noRdma⟩ (fit_of_few few)

/-- Two pages are written, and both of them are read twice. -/
def swapTwoPages : List (Action CallEnv) :=
  [.ctlOpen true, .queueRq 0 (Request.ofPage 1 .write (.filled 1)) noMemory,
    .queueRq 1 (Request.ofPage 2 .write (.filled 2)) noMemory] ++
  List.replicate 2 (.pollOnce ⟨0, .listed TrackedPage⟩) ++ [.harvest, .harvest] ++
  (List.replicate 2 ([.queueRq 0 (Request.ofPage 1 .read .zero) noMemory,
    .queueRq 1 (Request.ofPage 2 .read .zero) noMemory] ++
  List.replicate 2 (.pollOnce ⟨0, .listed TrackedPage⟩) ++ [.harvest, .harvest])).flatten

theorem eq_ok_of_toOption {Error : Type u} {Value : Type v} {result : Except Error Value}
    {value : Value} (isValue : result.toOption = some value) : result = .ok value := by
  cases result with
  | error error => cases isValue
  | ok found => rw [Option.some.inj isValue]

/-- The second page is with a peer which is restarted after the first READ; the other READ of it
fails. -/
theorem swapTwoPages_reads_back :
    ∃ engine built dev final, Engine.new .literalLz4 true peerRestarts memoryAndPeer =
        .ok (engine, built) ∧ duvmInit 4 = .ok dev ∧
      Transition.run (World.step Engine.model) (.start dev engine) swapTwoPages = some final ∧
      (final.harvests.map fun ending => ending.completed.status) =
        [.ok, .ok, .ok, .ok, .ok, .ioerr] ∧
      ReadsBack final.harvests := by
  have ran : ((Engine.new .literalLz4 true peerRestarts memoryAndPeer).toOption.bind fun new =>
      (duvmInit 4).toOption.bind fun dev =>
        (Transition.run (World.step Engine.model) (.start dev new.1) swapTwoPages).map fun final =>
          (new.2.map Built.isRdma, final.harvests.map fun ending => ending.completed.status,
            final.engine.granted)) =
      some ([false, false], [.ok, .ok, .ok, .ok, .ok, .ioerr], [1]) := by
    decide +kernel
  simp only [Option.bind_eq_some_iff, Option.map_eq_some_iff, Prod.mk.injEq] at ran
  rcases ran with ⟨⟨engine, built⟩, isNew, dev, isDev, final, reached, noRdma, statuses, granted⟩
  have started := eq_ok_of_toOption isNew
  have initialised := eq_ok_of_toOption isDev
  refine ⟨engine, built, dev, final, started, initialised, reached, statuses,
    reads_back_through_started_daemon started peerRestarts_starts (noRdma_of_map noRdma) 4
      initialised swapTwoPages ?_ reached (Engine.granted_le granted)⟩
  simp [swapTwoPages, List.replicate, World.PagesOnly, Request.singlePage_ofPage]

end Duvm.Kmod
