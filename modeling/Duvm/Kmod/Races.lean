import Duvm.Kmod.EndToEnd
import Duvm.Kmod.Granularity

/-!
# No races on the shared memory

The entries of the rings, the pages of the staging area and the command data are
copied without a lock, in the kernel and in the daemon. No two parties are ever about
to access the same one of them. So it does not matter in which pieces a copy is made,
and no party sees an entry or a page which is half written.

What the block layer gets back is as if every call had been made at once.
-/

namespace Duvm.Kmod

open Function (update)
open Duvm.Daemon

universe u v

/-- What is copied without a lock. -/
inductive Location where
  | request (cell : ℕ)
  | completion (cell : ℕ)
  | slot (slot : ℕ)
  | command (tag : ℕ)
deriving DecidableEq

/-- What the submitter is about to read or write. -/
def Queueing.accesses : Queueing → List Location
  | .allocated submission => if submission.rq.dir = .write then [.slot submission.slot] else []
  | .staged submission | .released submission => [.command submission.tag]
  | .tested _ writeIdx => [.request writeIdx]
  | .idle | .started _ | .written _ _ | .refused _ => []

/-- What the daemon is about to read or write. -/
def Polling.accesses (compWriteIdx : ℕ) : Polling → List Location
  | .pending reqRead => [.request reqRead]
  | .fetched _ req => if req.op = .store then [.slot req.stagingSlot] else []
  | .executed _ execution =>
      if execution.returned.isSome then [.slot execution.request.stagingSlot] else []
  | .consumed _ => [.completion compWriteIdx]
  | .idle | .filled _ _ | .written _ _ => []

/-- What the harvester is about to read or write. -/
def Harvesting.accesses (dev : DuvmDevice) : Harvesting → List Location
  | .found cidx => [.completion cidx]
  | .taken comp =>
      match tagOfSeq dev.queueDepth comp.seq with
      | none => []
      | some tag => [.command tag, .slot (dev.tags tag).cmd.stagingSlot]
  | .filled tag _ | .freed tag _ => [.command tag]
  | .idle | .copied _ _ => []

inductive Party where
  | submitter
  | daemon
  | harvester
deriving DecidableEq

def PartyAction.party {Env : Type u} : PartyAction Env → Party
  | .queueRq _ _ | .queueing => .submitter
  | .polling _ => .daemon
  | .harvesting => .harvester

section Races

variable {Env : Type u} {Engine : Type v} {model : EngineModel Env Engine} {initial : Engine}
  {world : World Engine} {parties after : Parties Engine}

def Parties.accesses (parties : Parties Engine) : Party → List Location
  | .submitter => parties.queueing.accesses
  | .daemon => parties.polling.accesses parties.dev.ring.compWriteIdx
  | .harvester => parties.harvesting.accesses parties.dev

/-- A step changes what the party is about to access, and nothing else. -/
structure WritesListed (parties after : Parties Engine) (party : Party) : Prop where
  requests : ∀ cell, .request cell ∉ parties.accesses party →
    after.dev.ring.requests cell = parties.dev.ring.requests cell
  completions : ∀ cell, .completion cell ∉ parties.accesses party →
    after.dev.ring.completions cell = parties.dev.ring.completions cell
  slots : ∀ slot, .slot slot ∉ parties.accesses party →
    slotBytes after.dev.ring.staging slot = slotBytes parties.dev.ring.staging slot
  commands : ∀ tag, .command tag ∉ parties.accesses party →
    after.dev.tags tag = parties.dev.tags tag

theorem WritesListed.of_same {party : Party}
    (requests : after.dev.ring.requests = parties.dev.ring.requests)
    (completions : after.dev.ring.completions = parties.dev.ring.completions)
    (staging : after.dev.ring.staging = parties.dev.ring.staging)
    (tags : after.dev.tags = parties.dev.tags) : WritesListed parties after party where
  requests cell _ := congrFun requests cell
  completions cell _ := congrFun completions cell
  slots slot _ := congrArg (fun staging => slotBytes staging slot) staging
  commands tag _ := congrFun tags tag

/-- The locations which belong to the submitter. -/
def Queueing.Owns (queueing : Queueing) : Location → Prop
  | .request cell => queueing.cell? = some cell
  | .completion _ => False
  | .slot slot => ∃ submission, queueing.submission? = some submission ∧ submission.slot = slot
  | .command tag => ∃ submission, queueing.submission? = some submission ∧ submission.tag = tag

/-- The locations which belong to the daemon. -/
def Parties.DaemonOwns (parties : Parties Engine) (world : World Engine) : Location → Prop
  | .request cell => cell = world.dev.ring.reqReadIdx ∧ cell ≠ world.dev.ring.reqWriteIdx
  | .completion cell => cell = parties.dev.ring.compWriteIdx ∧ parties.polling.owed = 1
  | .slot slot => ∃ submission, world.submitted[world.executed.length]? = some submission ∧
      submission.slot = slot
  | .command _ => False

/-- The locations which belong to the harvester. -/
def Parties.HarvesterOwns (parties : Parties Engine) (world : World Engine) : Location → Prop
  | .request _ => False
  | .completion cell => cell = world.dev.ring.compReadIdx ∧
      world.consumed + parties.polling.owed < world.executed.length
  | .slot slot => ∃ submission, world.submitted[world.consumed]? = some submission ∧
      submission.slot = slot ∧ world.consumed < world.executed.length
  | .command tag =>
      (∃ submission, world.submitted[world.consumed]? = some submission ∧ submission.tag = tag) ∨
        ∃ ending, parties.harvesting.ending? = some ending ∧ ending.tag = tag

variable {location : Location}

theorem Queueing.owns_of_mem {queueing : Queueing} (listed : location ∈ queueing.accesses) :
    queueing.Owns location := by
  cases queueing with
  | allocated submission =>
      simp only [accesses] at listed
      split at listed
      · rw [List.mem_singleton.mp listed]
        exact ⟨submission, rfl, rfl⟩
      · cases listed
  | staged submission =>
      rw [List.mem_singleton.mp listed]
      exact ⟨submission, rfl, rfl⟩
  | released submission =>
      rw [List.mem_singleton.mp listed]
      exact ⟨submission, rfl, rfl⟩
  | tested submission writeIdx =>
      rw [List.mem_singleton.mp listed]
      rfl
  | idle | started | written | refused => cases listed

theorem Abstracts.daemonOwns_of_mem (abstracts : Abstracts model parties world)
    (staged : world.Staged model initial) (listed : location ∈ parties.accesses .daemon) :
    parties.DaemonOwns world location := by
  simp only [Parties.accesses] at listed
  cases abstracts.polling with
  | pending atPending _ waits =>
      rw [atPending] at listed
      rw [List.mem_singleton.mp listed]
      exact ⟨rfl, pending_of_lt staged waits⟩
  | @fetched submission atFetched _ oldest =>
      rw [atFetched] at listed
      simp only [Polling.accesses] at listed
      split at listed
      · rw [List.mem_singleton.mp listed]
        exact ⟨submission, oldest, rfl⟩
      · cases listed
  | @executed submission execution atExecuted inHands =>
      rw [atExecuted] at listed
      simp only [Polling.accesses] at listed
      split at listed
      · rw [List.mem_singleton.mp listed, inHands.request]
        exact ⟨submission, inHands.next, rfl⟩
      · cases listed
  | consumed atConsumed =>
      rw [atConsumed] at listed
      rw [List.mem_singleton.mp listed]
      exact ⟨rfl, by rw [atConsumed]; rfl⟩
  | idle atIdle =>
      rw [atIdle] at listed
      cases listed
  | filled atFilled =>
      rw [atFilled] at listed
      cases listed
  | written atWritten =>
      rw [atWritten] at listed
      cases listed

theorem Abstracts.harvesterOwns_of_mem (abstracts : Abstracts model parties world)
    (staged : world.Staged model initial) (listed : location ∈ parties.accesses .harvester) :
    parties.HarvesterOwns world location := by
  simp only [Parties.accesses] at listed
  cases abstracts.harvesting with
  | found atFound ready =>
      rw [atFound] at listed
      rw [List.mem_singleton.mp listed]
      exact ⟨rfl, ready.published⟩
  | @taken execution atTaken ready =>
      rcases staged.owned.coherent.rings.answers _ _ ready.oldest with
        ⟨submission, isOldest, request⟩
      have entry := (abstracts.harvestStep_of_taken staged atTaken ready isOldest request).1
      have live := World.mem_live (le_refl _) isOldest
      have isTag : tagOfSeq parties.dev.queueDepth (completionOf execution).seq =
          some submission.tag := by
        rw [World.tagOfSeq_eq_some_iff, abstracts.queueDepth, completionOf, request]
        exact ⟨rfl, staged.owned.coherent.tags.inRange submission live⟩
      rw [atTaken] at listed
      simp only [Harvesting.accesses, isTag, List.mem_cons, List.not_mem_nil, or_false] at listed
      rcases listed with rfl | rfl
      · exact Or.inl ⟨submission, isOldest, rfl⟩
      · rw [entry]
        exact ⟨submission, isOldest, rfl, Log.index_lt ready.oldest⟩
  | filled atFilled =>
      rw [atFilled] at listed
      rw [List.mem_singleton.mp listed]
      exact Or.inr ⟨_, by rw [atFilled]; rfl, rfl⟩
  | freed atFreed =>
      rw [atFreed] at listed
      rw [List.mem_singleton.mp listed]
      exact Or.inr ⟨_, by rw [atFreed]; rfl, rfl⟩
  | idle atIdle =>
      rw [atIdle] at listed
      cases listed
  | copied atCopied =>
      rw [atCopied] at listed
      cases listed

namespace Abstracts

theorem submitter_disjoint_daemon (abstracts : Abstracts model parties world)
    (staged : world.Staged model initial) :
    (parties.accesses .submitter).Disjoint (parties.accesses .daemon) := by
  intro location submits polls
  have queued := Queueing.owns_of_mem submits
  have polled := abstracts.daemonOwns_of_mem staged polls
  cases location with
  | request cell => exact polled.2 (abstracts.queueing.room queued).1
  | completion cell => exact queued
  | slot slot =>
      rcases queued with ⟨submission, isQueued, rfl⟩
      rcases polled with ⟨oldest, listed, same⟩
      exact (abstracts.apart_of_live staged staged.owned.coherent.rings.consumedLe listed
        isQueued).1 same.symm
  | command tag => exact polled

theorem submitter_disjoint_harvester (abstracts : Abstracts model parties world)
    (staged : world.Staged model initial) :
    (parties.accesses .submitter).Disjoint (parties.accesses .harvester) := by
  intro location submits harvests
  have queued := Queueing.owns_of_mem submits
  have harvested := abstracts.harvesterOwns_of_mem staged harvests
  cases location with
  | request cell => exact harvested
  | completion cell => exact queued
  | slot slot =>
      rcases queued with ⟨submission, isQueued, rfl⟩
      rcases harvested with ⟨oldest, listed, same, _⟩
      exact (abstracts.apart_of_live staged (le_refl _) listed isQueued).1 same.symm
  | command tag =>
      rcases queued with ⟨submission, isQueued, rfl⟩
      rcases harvested with ⟨oldest, listed, same⟩ | ⟨ending, isEnding, same⟩
      · exact (abstracts.apart_of_live staged (le_refl _) listed isQueued).2 same.symm
      · exact abstracts.apartTags isQueued isEnding same.symm

theorem daemon_disjoint_harvester (abstracts : Abstracts model parties world)
    (staged : world.Staged model initial) :
    (parties.accesses .daemon).Disjoint (parties.accesses .harvester) := by
  intro location polls harvests
  have polled := abstracts.daemonOwns_of_mem staged polls
  have harvested := abstracts.harvesterOwns_of_mem staged harvests
  cases location with
  | request cell => exact harvested
  | completion cell =>
      exact abstracts.compReadIdx_ne staged polled.2 harvested.2 (harvested.1.symm.trans polled.1)
  | slot slot =>
      rcases polled with ⟨next, isNext, rfl⟩
      rcases harvested with ⟨oldest, isOldest, same, behind⟩
      exact staged.owned.slot_ne (le_refl _) staged.owned.coherent.rings.consumedLe behind.ne
        isOldest isNext same
  | command tag => exact polled

theorem writesListed_of_queueStep (abstracts : Abstracts model parties world)
    (stepped : parties.queueStep = some after) : WritesListed parties after .submitter := by
  have single : ∀ {submission}, parties.queueing.submission? = some submission →
      submission.rq.SinglePage := abstracts.single
  rcases parties with ⟨dev, engine, queueing, polling, harvesting, ended⟩
  cases queueing with
  | idle => cases stepped
  | allocated submission =>
      cases stepped
      refine ⟨fun _ _ => rfl, fun _ _ => rfl, ?_, fun _ _ => rfl⟩
      intro slot unlisted
      change slotBytes (submission.rq.stage dev.ring.staging submission.slot) slot = _
      cases direction : submission.rq.dir with
      | read => rw [Request.stage_of_read direction]
      | write =>
          apply slotBytes_stage_of_ne _ (single rfl)
          rintro rfl
          exact unlisted (by simp [Parties.accesses, Queueing.accesses, direction])
  | staged submission =>
      cases stepped
      refine ⟨fun _ _ => rfl, fun _ _ => rfl, fun _ _ => rfl, ?_⟩
      intro tag unlisted
      apply Function.update_of_ne
      rintro rfl
      exact unlisted (List.mem_singleton_self _)
  | started submission =>
      simp only [Parties.queueStep] at stepped
      split at stepped
      · cases stepped
        exact .of_same rfl rfl rfl rfl
      · cases stepped
        exact .of_same rfl rfl rfl rfl
  | tested submission writeIdx =>
      cases stepped
      refine ⟨?_, fun _ _ => rfl, fun _ _ => rfl, fun _ _ => rfl⟩
      intro cell unlisted
      apply Function.update_of_ne
      rintro rfl
      exact unlisted (List.mem_singleton_self _)
  | written submission writeIdx =>
      cases stepped
      exact .of_same rfl rfl rfl rfl
  | refused submission =>
      cases stepped
      exact .of_same rfl rfl rfl rfl
  | released submission =>
      cases stepped
      refine ⟨fun _ _ => rfl, fun _ _ => rfl, fun _ _ => rfl, ?_⟩
      intro tag unlisted
      apply Function.update_of_ne
      rintro rfl
      exact unlisted (List.mem_singleton_self _)

end Abstracts

theorem writesListed_of_pollStep {env : Env}
    (stepped : parties.pollStep model env = some after) : WritesListed parties after .daemon := by
  rcases parties with ⟨dev, engine, queueing, polling, harvesting, ended⟩
  cases polling with
  | idle =>
      simp only [Parties.pollStep] at stepped
      split at stepped
      · cases stepped
        exact .of_same rfl rfl rfl rfl
      · cases stepped
        exact .of_same rfl rfl rfl rfl
  | pending reqRead =>
      cases stepped
      exact .of_same rfl rfl rfl rfl
  | fetched reqRead req =>
      simp only [Parties.pollStep] at stepped
      split at stepped
      · cases stepped
      · cases stepped
        exact .of_same rfl rfl rfl rfl
  | executed reqRead execution =>
      cases stepped
      refine ⟨fun _ _ => rfl, fun _ _ => rfl, ?_, fun _ _ => rfl⟩
      intro slot unlisted
      change slotBytes (execution.fill dev.ring.staging) slot = _
      cases returned : execution.returned with
      | none => rw [Execution.fill, returned]
      | some page =>
          apply slotBytes_fill_of_ne
          rintro rfl
          exact unlisted (by simp [Parties.accesses, Polling.accesses, returned])
  | filled reqRead execution =>
      cases stepped
      exact .of_same rfl rfl rfl rfl
  | consumed execution =>
      cases stepped
      refine ⟨fun _ _ => rfl, ?_, fun _ _ => rfl, fun _ _ => rfl⟩
      intro cell unlisted
      apply Function.update_of_ne
      rintro rfl
      exact unlisted (List.mem_singleton_self _)
  | written compWrite execution =>
      cases stepped
      exact .of_same rfl rfl rfl rfl

theorem writesListed_of_harvestStep (stepped : parties.harvestStep = some after) :
    WritesListed parties after .harvester := by
  rcases parties with ⟨dev, engine, queueing, polling, harvesting, ended⟩
  cases harvesting with
  | idle =>
      simp only [Parties.harvestStep] at stepped
      split at stepped
      · cases stepped
        exact .of_same rfl rfl rfl rfl
      · cases stepped
        exact .of_same rfl rfl rfl rfl
  | found cidx =>
      cases stepped
      exact .of_same rfl rfl rfl rfl
  | copied cidx comp =>
      cases stepped
      exact .of_same rfl rfl rfl rfl
  | taken comp =>
      simp only [Parties.harvestStep] at stepped
      split at stepped
      · cases stepped
        exact .of_same rfl rfl rfl rfl
      · split at stepped
        · cases stepped
          exact .of_same rfl rfl rfl rfl
        · cases stepped
          exact .of_same rfl rfl rfl rfl
  | filled tag completed =>
      cases stepped
      exact .of_same rfl rfl rfl rfl
  | freed tag completed =>
      cases stepped
      refine ⟨fun _ _ => rfl, fun _ _ => rfl, fun _ _ => rfl, ?_⟩
      intro other unlisted
      apply Function.update_of_ne
      rintro rfl
      exact unlisted (List.mem_singleton_self _)

theorem writesListed_enter (parties : Parties Engine) (tag : ℕ) (rq : Request) :
    WritesListed parties (parties.enter tag rq) .submitter := by
  unfold Parties.enter
  cases allocation : duvmAllocStagingSlot parties.dev.ring with
  | mk found ring =>
      cases found with
      | none => exact .of_same rfl rfl rfl rfl
      | some slot =>
          rcases duvmAllocStagingSlot_eq_some allocation with ⟨_, _, rfl⟩
          exact .of_same rfl rfl rfl rfl

theorem Abstracts.writesListed (abstracts : Abstracts model parties world)
    {action : PartyAction Env} (stepped : parties.step model action = some after) :
    WritesListed parties after action.party := by
  cases action with
  | queueRq tag rq =>
      cases atQueue : parties.queueing with
      | idle =>
          simp only [Parties.step, atQueue, Option.ite_none_right_eq_some,
            Option.some.injEq] at stepped
          rcases stepped with ⟨_, rfl⟩
          exact writesListed_enter parties tag rq
      | allocated | staged | started | tested | written | refused | released =>
          simp only [Parties.step, atQueue] at stepped
          cases stepped
  | queueing => exact abstracts.writesListed_of_queueStep stepped
  | polling env => exact writesListed_of_pollStep stepped
  | harvesting => exact writesListed_of_harvestStep stepped

/-- In every interleaving of the accesses of the submitter, the daemon and the harvester, no two of
them are about to access the same entry, page or command, and a step changes nothing but what its
party is about to access. -/
theorem no_races (model : EngineModel Env Engine) (ringEntries : ℕ) {dev : DuvmDevice}
    (initialised : duvmInit ringEntries = .ok dev) (engine : Engine)
    (actions : List (PartyAction Env)) (pages : ∀ action ∈ actions, action.PagesOnly)
    {reached : Parties Engine}
    (ran : Transition.run (Parties.step model) (.start dev engine) actions = some reached) :
    (∀ first second, first ≠ second →
      (reached.accesses first).Disjoint (reached.accesses second)) ∧
    ∀ action after, reached.step model action = some after →
      WritesListed reached after action.party := by
  rcases abstracts_of_run initialised pages ran with ⟨world, staged, abstracts⟩
  refine ⟨?_, fun _ _ stepped => abstracts.writesListed stepped⟩
  intro first second different
  cases first with
  | submitter =>
      cases second with
      | submitter => exact absurd rfl different
      | daemon => exact abstracts.submitter_disjoint_daemon staged
      | harvester => exact abstracts.submitter_disjoint_harvester staged
  | daemon =>
      cases second with
      | submitter => exact (abstracts.submitter_disjoint_daemon staged).symm
      | daemon => exact absurd rfl different
      | harvester => exact abstracts.daemon_disjoint_harvester staged
  | harvester =>
      cases second with
      | submitter => exact (abstracts.submitter_disjoint_harvester staged).symm
      | daemon => exact (abstracts.daemon_disjoint_harvester staged).symm
      | harvester => exact absurd rfl different

end Races

/-- A request is written while the daemon copies the one before it, and the harvester is about to
copy a completion while the daemon is about to write the next one. -/
def threeAtOnce : List (PartyAction Bool) :=
  .queueRq 0 (Request.ofPage 1 .write (.filled 1)) :: List.replicate 5 .queueing ++
    .queueRq 1 (Request.ofPage 2 .write (.filled 2)) :: List.replicate 5 .queueing ++
    List.replicate 7 (.polling true) ++ .queueRq 2 (Request.ofPage 3 .write (.filled 3)) ::
    List.replicate 3 .queueing ++ List.replicate 5 (.polling true) ++ [.harvesting]

theorem threeAtOnce_no_races :
    ∃ dev reached, duvmInit 4 = .ok dev ∧
      Transition.run (Parties.step plainModel) (.start dev fun _ => none) threeAtOnce =
        some reached ∧
      reached.accesses .submitter = [.request 2] ∧ reached.accesses .daemon = [.completion 1] ∧
      reached.accesses .harvester = [.completion 0] ∧
      (reached.accesses .daemon).Disjoint (reached.accesses .harvester) := by
  have ran : ((duvmInit 4).toOption.bind fun dev =>
      (Transition.run (Parties.step plainModel) (.start dev fun _ => none) threeAtOnce).map
        fun reached =>
          (reached.accesses .submitter, reached.accesses .daemon, reached.accesses .harvester)) =
      some ([.request 2], [.completion 1], [.completion 0]) := by
    decide +kernel
  simp only [Option.bind_eq_some_iff, Option.map_eq_some_iff, Prod.mk.injEq] at ran
  rcases ran with ⟨dev, isDev, reached, isReached, submitter, daemon, harvester⟩
  have initialised := eq_ok_of_toOption isDev
  refine ⟨dev, reached, initialised, isReached, submitter, daemon, harvester, ?_⟩
  refine (no_races plainModel 4 initialised _ threeAtOnce ?_ isReached).1 _ _ (by decide)
  simp [threeAtOnce, List.replicate, PartyAction.PagesOnly, Request.singlePage_ofPage]

section Readback

theorem ReadsBack.of_append {log rest : List Ending} (readsBack : ReadsBack (log ++ rest)) :
    ReadsBack log := by
  intro index ending listed isRead succeeded
  have inside := Log.index_lt listed
  have found := readsBack index ending (by rw [List.getElem?_append_left inside, listed]) isRead
    succeeded
  rw [List.take_append_of_le_length inside.le] at found
  exact found

/-- A READ returns the data of the WRITE which succeeded last, or it fails, in every interleaving of
the accesses of `duvm_queue_rq`, `poll_once` and `duvm_completion_thread`, when the memory servers
have no other client. -/
theorem reads_back_access_by_access {codec : Lz4} {checked : Bool} {env : StartupEnv}
    {config : DaemonConfig} {engine : Engine (AnyBackend codec)} {built : List (Built codec)}
    (started : Engine.new codec checked env config = .ok (engine, built))
    (servers : ∀ calls server fates, env.tcpInit calls = some (server, fates) →
      ∃ serverPages, server = .start serverPages)
    (noRdma : ∀ entry ∈ built, entry.isRdma = false) (ringEntries : ℕ) {dev : DuvmDevice}
    (initialised : duvmInit ringEntries = .ok dev) (actions : List (PartyAction CallEnv))
    (pages : ∀ action ∈ actions, action.PagesOnly) {final : Parties (Engine (AnyBackend codec))}
    (ran : Transition.run (Parties.step Engine.model) (.start dev engine) actions = some final)
    (few : ∀ id link, final.engine.backends.lookup id = some (.inr (.inr link)) →
      link.server.granted ≤ 2 ^ 64) : ReadsBack final.ended := by
  rcases abstracts_of_run initialised pages ran with ⟨world, staged, abstracts⟩
  have empty : engine.HoldsOnly fun _ => none := ⟨_, backs_nothing_of_new started servers noRdma⟩
  have fit : final.engine.Fit := fit_of_few few
  -- the engine may have been called for the request which the daemon is about to consume
  have worldFit : world.engine.Fit := by
    have called : ∀ {submission execution}, InHands Engine.model world final.engine submission
        execution → world.engine.Fit := by
      intro submission execution inHands
      have holds := (loads_of_trace Engine.simulates_custody staged.trace empty).1
      exact ((holds_of_executes Engine.simulates_custody holds inHands.executes).2 fit).1
    cases abstracts.polling with
    | executed _ inHands => exact called inHands
    | filled _ inHands => exact called inHands
    | idle _ same => exact same ▸ fit
    | pending _ same => exact same ▸ fit
    | fetched _ same => exact same ▸ fit
    | consumed _ same => exact same ▸ fit
    | written _ same => exact same ▸ fit
  have readsBack := staged.readsBack Engine.simulates_custody empty worldFit
  rw [abstracts.ended] at readsBack
  exact readsBack.of_append

/-- Two pages are written and both are read twice; the submitter, the daemon and the harvester take
turns. -/
def swapInTurns : List (PartyAction CallEnv) :=
  let submit (tag : ℕ) (rq : Request) : List (PartyAction CallEnv) :=
    .queueRq tag rq :: List.replicate 5 .queueing
  let serve : List (PartyAction CallEnv) :=
    (List.replicate 21 [.polling ⟨0, .listed TrackedPage⟩, .harvesting]).flatten
  submit 0 (Request.ofPage 1 .write (.filled 1)) ++
    submit 1 (Request.ofPage 2 .write (.filled 2)) ++ serve ++
    (List.replicate 2 (submit 0 (Request.ofPage 1 .read .zero) ++
      submit 1 (Request.ofPage 2 .read .zero) ++ serve)).flatten

theorem swapInTurns_reads_back :
    ∃ engine built dev final, Engine.new .literalLz4 true peerRestarts memoryAndPeer =
        .ok (engine, built) ∧ duvmInit 4 = .ok dev ∧
      Transition.run (Parties.step Engine.model) (.start dev engine) swapInTurns = some final ∧
      (final.ended.map fun ending => ending.completed.status) =
        [.ok, .ok, .ok, .ok, .ok, .ioerr] ∧
      ReadsBack final.ended := by
  have ran : ((Engine.new .literalLz4 true peerRestarts memoryAndPeer).toOption.bind fun new =>
      (duvmInit 4).toOption.bind fun dev =>
        (Transition.run (Parties.step Engine.model) (.start dev new.1) swapInTurns).map fun final =>
          (new.2.map Built.isRdma, final.ended.map fun ending => ending.completed.status,
            final.engine.granted)) =
      some ([false, false], [.ok, .ok, .ok, .ok, .ok, .ioerr], [1]) := by
    decide +kernel
  simp only [Option.bind_eq_some_iff, Option.map_eq_some_iff, Prod.mk.injEq] at ran
  rcases ran with ⟨⟨engine, built⟩, isNew, dev, isDev, final, reached, noRdma, statuses, granted⟩
  have started := eq_ok_of_toOption isNew
  have initialised := eq_ok_of_toOption isDev
  refine ⟨engine, built, dev, final, started, initialised, reached, statuses,
    reads_back_access_by_access started peerRestarts_starts (noRdma_of_map noRdma) 4 initialised
      swapInTurns ?_ reached (Engine.granted_le granted)⟩
  simp only [swapInTurns, List.mem_append, List.mem_cons, List.mem_flatten, List.mem_replicate]
  rintro action listed
  cases action with
  | queueRq tag rq =>
      have isPage : ∃ index dir page, rq = Request.ofPage index dir page := by
        simp at listed
        grind
      rcases isPage with ⟨index, dir, page, rfl⟩
      exact Request.singlePage_ofPage index dir page
  | queueing | polling | harvesting => trivial

end Readback

end Duvm.Kmod
