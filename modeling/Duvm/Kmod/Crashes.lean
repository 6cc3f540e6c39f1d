import Duvm.Kmod.Invariant

/-!
# Crashes of the daemon

`poll_once` writes to the shared memory up to four times: a loaded page to the
staging buffer, `req_read_idx`, the completion, and `comp_write_idx`. Here it takes
these writes one by one, and the daemon may die before each of them. Its memory is
gone then, the shared memory stays, and the next daemon goes on from the indices it
finds there.

A request which has been passed by `req_read_idx` and whose completion has not been
published by `comp_write_idx` is known to the daemon only. If the daemon dies now,
the request is lost.
-/

namespace Duvm.Kmod

open Function (update)
open Duvm.Daemon

universe u v

/-- How far `poll_once` has come, with what it has in its local variables. -/
inductive Progress where
  | idle
  | executed (reqRead : ℕ) (execution : Execution)
  | copied (reqRead : ℕ) (execution : Execution)
  | consumed (execution : Execution)
  | written (compWrite : ℕ) (execution : Execution)

/-- Whether a request has been consumed and not answered. -/
def Progress.holdsRequest : Progress → Bool
  | .idle | .executed _ _ | .copied _ _ => false
  | .consumed _ | .written _ _ => true

/-- The system with a daemon which can be interrupted. The history beside that of `World`: how
many requests have been consumed, the one which is consumed and not answered, those answered, and
those which a daemon has taken with it. -/
structure CrashWorld (Engine : Type v) where
  world : World Engine
  progress : Progress
  taken : ℕ
  pending : Option Submission
  published : List Submission
  lost : List Submission

inductive CrashAction (Env : Type u) (Engine : Type v) where
  | queueRq (tag : ℕ) (rq : Request) (fate : ℕ → MemoryFate)
  | daemon (env : Env)
  | harvest
  | timeout (tag : ℕ)
  | crash (engine : Engine)
  | reopen (threadStarts : Bool)

namespace CrashWorld

variable {Env : Type u} {Engine : Type v}

def start (dev : DuvmDevice) (engine : Engine) : CrashWorld Engine :=
  ⟨.start dev engine, .idle, 0, none, [], []⟩

def setRing (state : CrashWorld Engine) (ring : DuvmRing) : CrashWorld Engine :=
  { state with world := { state.world with dev := { state.world.dev with ring } } }

/-- The request is executed; nothing has been written yet. -/
def execute (state : CrashWorld Engine) (execution : Execution) (engine : Engine) :
    CrashWorld Engine :=
  { state with
    world := { state.world with engine }
    progress := .executed state.world.dev.ring.reqReadIdx execution }

def copy (state : CrashWorld Engine) (reqRead : ℕ) (execution : Execution) : CrashWorld Engine :=
  let ring := state.world.dev.ring
  { state.setRing { ring with staging := execution.fill ring.staging } with
    progress := .copied reqRead execution }

def consume (state : CrashWorld Engine) (reqRead : ℕ) (execution : Execution) :
    CrashWorld Engine :=
  let ring := state.world.dev.ring
  { state.setRing { ring with reqReadIdx := RingBuffer.advance ring.capacity reqRead } with
    progress := .consumed execution
    taken := state.taken + 1
    pending := state.world.submitted[state.taken]? }

def writeCompletion (state : CrashWorld Engine) (execution : Execution) : CrashWorld Engine :=
  let ring := state.world.dev.ring
  { state.setRing { ring with
      completions := update ring.completions ring.compWriteIdx (completionOf execution) } with
    progress := .written ring.compWriteIdx execution }

def publish (state : CrashWorld Engine) (compWrite : ℕ) (execution : Execution) :
    CrashWorld Engine :=
  let ring := state.world.dev.ring
  let ring := { ring with compWriteIdx := RingBuffer.advance ring.capacity compWrite }
  { state with
    world := { state.world with
      dev := { state.world.dev with ring }
      executed := state.world.executed ++ [execution] }
    progress := .idle
    pending := none
    published := state.published ++ state.pending.toList }

/-- The next write of `poll_once`. -/
def daemon (model : EngineModel Env Engine) (env : Env) (state : CrashWorld Engine) :
    Option (CrashWorld Engine) :=
  match state.progress with
  | .idle =>
      match pollOnce model env state.world.dev.ring state.world.engine with
      | .idle => some state
      | .panicked _ => none
      | .served execution _ engine => some (state.execute execution engine)
  -- only a load which succeeds has a page to copy; for the others this changes nothing
  | .executed reqRead execution => some (state.copy reqRead execution)
  | .copied reqRead execution => some (state.consume reqRead execution)
  | .consumed execution => some (state.writeCompletion execution)
  | .written compWrite execution => some (state.publish compWrite execution)

/-- The process dies, which closes `/dev/duvm_ctl`; the next one has another engine. A process
which is dead before the file is closed is one which takes no step in between. -/
def crash (state : CrashWorld Engine) (engine : Engine) : CrashWorld Engine :=
  { state with
    world := { state.world with dev := duvmCtlRelease state.world.dev, engine }
    progress := .idle
    pending := none
    lost := state.lost ++ state.pending.toList }

/-- What the kernel does is as in `World.step`. -/
def step (model : EngineModel Env Engine) (state : CrashWorld Engine) :
    CrashAction Env Engine → Option (CrashWorld Engine)
  | .queueRq tag rq fate =>
      (state.world.step model (.queueRq tag rq fate)).map fun world => { state with world }
  | .daemon env => if state.world.dev.ring.daemonConnected then state.daemon model env else none
  | .harvest => (state.world.step model .harvest).map fun world => { state with world }
  | .timeout tag => (state.world.step model (.timeout tag)).map fun world => { state with world }
  | .crash engine =>
      if state.world.dev.ring.daemonConnected then some (state.crash engine) else none
  | .reopen threadStarts =>
      (state.world.step model (.ctlOpen threadStarts)).map fun world => { state with world }

/-- The requests in flight: waiting for the daemon, in its hands, waiting for the harvester, or
lost. -/
def live (state : CrashWorld Engine) : List Submission :=
  state.world.submitted.drop state.taken ++
    (state.pending.toList ++ (state.published.drop state.world.consumed ++ state.lost))

/-- The request under the tag is between `req_read_idx` and `req_write_idx`. -/
def Waiting (state : CrashWorld Engine) (tag : ℕ) : Prop :=
  let ring := state.world.dev.ring
  ∃ distance, distance < RingBuffer.span ring.capacity ring.reqReadIdx ring.reqWriteIdx ∧
    (ring.requests ((ring.reqReadIdx + distance) % ring.capacity)).seq = tag + 1

/-- One of the completions which are published and not harvested is for the tag. -/
def Answered (state : CrashWorld Engine) (tag : ℕ) : Prop :=
  let ring := state.world.dev.ring
  ∃ count, state.world.consumed ≤ count ∧ count < state.published.length ∧
    (ring.completions (count % ring.capacity)).seq = tag + 1

/-- Every request which has been submitted and not ended is waiting or answered, and every
request which has been consumed has been answered. -/
structure Accounted (state : CrashWorld Engine) : Prop where
  inFlight : ∀ tag, (state.world.dev.tags tag).state = .started →
    state.Waiting tag ∨ state.Answered tag
  consumed : state.world.submitted.take state.taken = state.published

/-- The daemon does not die between its write of `req_read_idx` and that of `comp_write_idx`. -/
def KeepsRequest (state : CrashWorld Engine) : CrashAction Env Engine → Prop
  | .crash _ => state.progress.holdsRequest = false
  | _ => True

instance (state : CrashWorld Engine) :
    (action : CrashAction Env Engine) → Decidable (state.KeepsRequest action)
  | .crash _ => inferInstanceAs (Decidable (_ = _))
  | .queueRq .. | .daemon _ | .harvest | .timeout _ | .reopen _ => isTrue trivial

end CrashWorld

/-- The order of the requests in flight does not matter. -/
theorem TagsAgree.perm {queueDepth : ℕ} {tags : ℕ → TagEntry} {live other : List Submission}
    (agree : TagsAgree queueDepth tags live) (same : live.Perm other) :
    TagsAgree queueDepth tags other where
  inRange submission inFlight := agree.inRange submission (same.mem_iff.mpr inFlight)
  entries submission inFlight := agree.entries submission (same.mem_iff.mpr inFlight)
  distinct := (same.map _).nodup_iff.mp agree.distinct
  started tag isStarted := by
    rcases agree.started tag isStarted with ⟨submission, inFlight, isTag⟩
    exact ⟨submission, same.mem_iff.mp inFlight, isTag⟩

/-- What the daemon has in its local variables agrees with the shared memory and with the
history. -/
def InHand (reqReadIdx compWriteIdx : ℕ) (cell : DuvmCompletion)
    (next pending : Option Submission) : Progress → Prop
  | .idle => pending = none
  | .executed reqRead execution | .copied reqRead execution =>
      reqRead = reqReadIdx ∧ pending = none ∧
        ∃ submission, next = some submission ∧ execution.request = submission.ring
  | .consumed execution =>
      ∃ submission, pending = some submission ∧ execution.request = submission.ring
  | .written compWrite _ =>
      compWrite = compWriteIdx ∧
        ∃ submission, pending = some submission ∧ cell.seq = submission.tag + 1

section InHand

variable {reqReadIdx compWriteIdx : ℕ} {cell : DuvmCompletion}
  {next pending : Option Submission} {progress : Progress}

/-- A request which comes in leaves the next one where it is. -/
theorem InHand.mono {later : Option Submission}
    (inHand : InHand reqReadIdx compWriteIdx cell next pending progress)
    (kept : ∀ submission, next = some submission → later = some submission) :
    InHand reqReadIdx compWriteIdx cell later pending progress := by
  cases progress with
  | idle => exact inHand
  | executed reqRead execution | copied reqRead execution =>
      rcases inHand with ⟨isRead, settled, submission, isNext, request⟩
      exact ⟨isRead, settled, submission, kept submission isNext, request⟩
  | consumed execution => exact inHand
  | written compWrite execution => exact inHand

theorem InHand.pending_eq_none_iff
    (inHand : InHand reqReadIdx compWriteIdx cell next pending progress) :
    pending = none ↔ progress.holdsRequest = false := by
  cases progress with
  | idle => simpa [InHand, Progress.holdsRequest] using inHand
  | executed reqRead execution | copied reqRead execution =>
      simpa [Progress.holdsRequest] using inHand.2.1
  | consumed execution =>
      rcases inHand with ⟨submission, rfl, _⟩
      simp [Progress.holdsRequest]
  | written compWrite execution =>
      rcases inHand with ⟨_, submission, rfl, _⟩
      simp [Progress.holdsRequest]

end InHand

namespace CrashWorld

variable {Env : Type u} {Engine : Type v}

/-- The shared memory agrees with the history. -/
structure Sound (state : CrashWorld Engine) : Prop where
  requests : RingBuffer.Agrees state.world.dev.ring.requests state.world.dev.ring.capacity
    state.world.dev.ring.reqReadIdx state.world.dev.ring.reqWriteIdx state.taken
    (state.world.submitted.map Submission.ring)
  spare : state.world.submitted.length < state.taken + state.world.dev.ring.capacity
  completions : RingBuffer.Agrees (fun cell => (state.world.dev.ring.completions cell).seq)
    state.world.dev.ring.capacity state.world.dev.ring.compReadIdx
    state.world.dev.ring.compWriteIdx state.world.consumed (state.published.map (·.tag + 1))
  tags : TagsAgree state.world.dev.queueDepth state.world.dev.tags state.live
  depth : state.world.dev.queueDepth ≤ state.world.dev.ring.capacity
  inHand : InHand state.world.dev.ring.reqReadIdx state.world.dev.ring.compWriteIdx
    (state.world.dev.ring.completions state.world.dev.ring.compWriteIdx)
    state.world.submitted[state.taken]? state.pending state.progress
  inOrder : state.lost = [] →
    state.world.submitted.take state.taken = state.published ++ state.pending.toList

variable {dev : DuvmDevice} {reached : CrashWorld Engine}

theorem sound_start {ringEntries : ℕ} (initialised : duvmInit ringEntries = .ok dev)
    (engine : Engine) :
    (start dev engine).Sound := by
  have coherent := World.coherent_start initialised engine
  exact {
    requests := coherent.rings.requestRing
    spare := coherent.rings.cellFree
    completions := {
      powerOfTwo := coherent.rings.powerOfTwo
      ordered := le_refl _
      readIdx_eq := coherent.rings.compReadIdx
      writeIdx_eq := coherent.rings.compWriteIdx
      window := RingBuffer.window_nil }
    tags := coherent.tags
    depth := coherent.depth
    inHand := rfl
    inOrder := fun _ => rfl }

section Steps

variable {state : CrashWorld Engine}

/-- The request behind the completion which the harvester finds. -/
theorem Sound.exists_oldest (sound : state.Sound)
    (pending : state.world.dev.ring.compReadIdx ≠ state.world.dev.ring.compWriteIdx) :
    ∃ submission, state.world.consumed < state.published.length ∧
      state.published.drop state.world.consumed =
        submission :: state.published.drop (state.world.consumed + 1) ∧
      (state.world.dev.ring.completions state.world.dev.ring.compReadIdx).seq =
        submission.tag + 1 := by
  have ready := sound.completions.getElem?_of_ne pending
  rw [List.getElem?_map, Option.map_eq_some_iff] at ready
  rcases ready with ⟨submission, found, seq⟩
  rcases List.getElem?_eq_some_iff.mp found with ⟨inside, isSubmission⟩
  refine ⟨submission, inside, ?_, seq.symm⟩
  rw [List.drop_eq_getElem_cons inside, isSubmission]

theorem Sound.submit (sound : state.Sound) {submission : Submission}
    (inRange : submission.tag < state.world.dev.queueDepth)
    (notStarted : (state.world.dev.tags submission.tag).state ≠ .started)
    (room : RingBuffer.advance state.world.dev.ring.capacity state.world.dev.ring.reqWriteIdx ≠
      state.world.dev.ring.reqReadIdx) :
    ({ state with world := state.world.accepted submission } : CrashWorld Engine).Sound := by
  have close : (state.world.submitted.map Submission.ring).length <
      state.taken + state.world.dev.ring.capacity := by
    simpa using sound.spare
  have behind : state.taken ≤ state.world.submitted.length := by
    simpa using sound.requests.ordered
  have pushed := sound.requests.push close submission.ring
  refine { sound with requests := ?_, spare := ?_, tags := ?_, inHand := ?_, inOrder := ?_ }
  · simpa [World.accepted] using pushed
  · simpa [World.accepted] using (sound.requests.advance_ne_iff close).mp room
  · refine (sound.tags.submit inRange notStarted).perm ?_
    simp only [live, World.accepted, List.drop_append_of_le_length behind]
    rw [List.append_assoc, List.append_assoc _ [submission]]
    exact List.perm_append_comm.append_left _
  · refine sound.inHand.mono ?_
    intro next isNext
    exact Log.keep isNext
  · intro kept
    simp only [World.accepted, List.take_append_of_le_length behind]
    exact sound.inOrder kept

theorem Sound.answer (sound : state.Sound) {tag slot : ℕ} {completed : Completed}
    (pending : state.world.dev.ring.compReadIdx ≠ state.world.dev.ring.compWriteIdx)
    (seq : (state.world.dev.ring.completions state.world.dev.ring.compReadIdx).seq = tag + 1) :
    ({ state with world := state.world.answered tag slot completed } :
      CrashWorld Engine).Sound := by
  rcases sound.exists_oldest pending with ⟨submission, inside, oldest, isSeq⟩
  have sameTag : tag = submission.tag := Nat.succ.inj (seq.symm.trans isSeq)
  subst sameTag
  refine { sound with completions := ?_, tags := ?_ }
  · exact sound.completions.take (by simpa using inside)
  · refine TagsAgree.answer (sound.tags.perm ?_) (by simp)
    simp only [live, World.answered, oldest]
    exact (List.perm_middle.append_left _).trans List.perm_middle

variable {model : EngineModel Env Engine} {execution : Execution} {next : CrashWorld Engine}
  {action : CrashAction Env Engine}

/-- The kernel's steps. -/
theorem Sound.kernel {action : Action Env} {next : World Engine} (sound : state.Sound)
    (stepped : World.Stepped model state.world action next)
    (notPolled : ∀ env, action ≠ .pollOnce env) :
    ({ state with world := next } : CrashWorld Engine).Sound := by
  cases stepped with
  | unchanged => exact sound
  | refused notStarted =>
      exact { sound with tags := sound.tags.settle notStarted (by simp) }
  | accepted submission _ inRange notStarted _ _ room =>
      exact sound.submit inRange notStarted room
  | written _ notStarted =>
      exact { sound with tags := sound.tags.settle notStarted (by simp) }
  | read _ notStarted =>
      exact { sound with tags := sound.tags.settle notStarted (by simp) }
  | served => exact absurd rfl (notPolled _)
  | skipped pending unknown =>
      rcases sound.exists_oldest pending with ⟨submission, _, oldest, isSeq⟩
      have inFlight : submission ∈ state.live := by simp [live, oldest]
      have absent := unknown submission.tag (sound.tags.inRange submission inFlight) isSeq
      rw [sound.tags.entries submission inFlight] at absent
      simp [Submission.entry] at absent
  | answered pending seq => exact sound.answer pending seq
  | timedOut => exact { sound with }
  | opened => exact { sound with }
  | released => exact { sound with }

theorem Sound.execute (sound : state.Sound) {engine : Engine} (idle : state.progress = .idle)
    (pending : state.world.dev.ring.reqReadIdx ≠ state.world.dev.ring.reqWriteIdx)
    (request : execution.request = state.world.dev.ring.requests state.world.dev.ring.reqReadIdx) :
    (state.execute execution engine).Sound := by
  have waiting := sound.requests.getElem?_of_ne pending
  rw [List.getElem?_map, Option.map_eq_some_iff] at waiting
  rcases waiting with ⟨submission, found, cell⟩
  have settled := sound.inHand
  rw [idle] at settled
  exact { sound with inHand := ⟨rfl, settled, submission, found, request.trans cell.symm⟩ }

theorem Sound.copy (sound : state.Sound) {reqRead : ℕ}
    (executed : state.progress = .executed reqRead execution) :
    (state.copy reqRead execution).Sound := by
  have inHand := sound.inHand
  rw [executed] at inHand
  exact { sound with inHand := inHand }

theorem Sound.consume (sound : state.Sound) {reqRead : ℕ}
    (copied : state.progress = .copied reqRead execution) :
    (state.consume reqRead execution).Sound := by
  have inHand := sound.inHand
  rw [copied] at inHand
  rcases inHand with ⟨rfl, settled, submission, isNext, request⟩
  rcases List.getElem?_eq_some_iff.mp isNext with ⟨inside, isSubmission⟩
  have spare := sound.spare
  refine { sound with requests := ?_, spare := ?_, tags := ?_, inHand := ?_, inOrder := ?_ }
  · exact sound.requests.take (by simpa using inside)
  · exact spare.trans_le (Nat.add_le_add_right (Nat.le_succ _) _)
  · refine sound.tags.perm ?_
    simp only [live, CrashWorld.consume, setRing, settled, isNext, Option.toList,
      List.drop_eq_getElem_cons inside, isSubmission]
    exact List.perm_middle.symm
  · exact ⟨submission, isNext, request⟩
  · intro kept
    have earlier := sound.inOrder kept
    simp only [CrashWorld.consume, setRing, List.take_add_one, earlier, settled, isNext,
      Option.toList, List.append_nil]

/-- The completion goes to a cell which has been harvested. -/
theorem Sound.published_lt (sound : state.Sound) {submission : Submission}
    (held : state.pending = some submission) :
    state.published.length < state.world.consumed + state.world.dev.ring.capacity := by
  have bounded := sound.tags.length_le
  have depth := sound.depth
  simp only [live, held, Option.toList, List.length_append, List.length_cons,
    List.length_drop, List.length_nil] at bounded
  omega

theorem Sound.writeCompletion (sound : state.Sound)
    (consumed : state.progress = .consumed execution) :
    (state.writeCompletion execution).Sound := by
  have inHand := sound.inHand
  rw [consumed] at inHand
  rcases inHand with ⟨submission, held, request⟩
  have seq : (completionOf execution).seq = submission.tag + 1 := by
    rw [completionOf, request]
    rfl
  have written := sound.completions.write (by simpa using sound.published_lt held)
    (completionOf execution).seq
  have cells : (fun cell => (update state.world.dev.ring.completions
      state.world.dev.ring.compWriteIdx (completionOf execution) cell).seq) = _ :=
    funext fun cell => Function.apply_update (fun _ => DuvmCompletion.seq) _ _ _ cell
  rw [← cells] at written
  refine { sound with completions := written, inHand := ⟨rfl, submission, held, ?_⟩ }
  simpa [CrashWorld.writeCompletion, setRing] using seq

theorem Sound.publish (sound : state.Sound) {compWrite : ℕ}
    (written : state.progress = .written compWrite execution) :
    (state.publish compWrite execution).Sound := by
  have inHand := sound.inHand
  rw [written] at inHand
  rcases inHand with ⟨rfl, submission, held, seq⟩
  have behind : state.world.consumed ≤ state.published.length := by
    simpa using sound.completions.ordered
  refine { sound with completions := ?_, tags := ?_, inHand := rfl, inOrder := ?_ }
  · simpa [CrashWorld.publish, held] using sound.completions.publish seq
  · refine sound.tags.perm ?_
    simp only [live, CrashWorld.publish, held, Option.toList, List.nil_append,
      List.drop_append_of_le_length behind]
    rw [List.append_assoc]
    exact (List.perm_append_comm_assoc _ _ _).append_left _
  · intro kept
    simpa [CrashWorld.publish] using sound.inOrder kept

/-- What the daemon holds when it dies is lost. -/
theorem Sound.crash (sound : state.Sound) (engine : Engine) : (state.crash engine).Sound := by
  refine { sound with tags := ?_, inHand := rfl, inOrder := ?_ }
  · refine sound.tags.perm ?_
    simp only [live, CrashWorld.crash, Option.toList, List.nil_append]
    rw [← List.append_assoc (state.published.drop _)]
    exact List.perm_append_comm.append_left _
  · intro kept
    rcases List.append_eq_nil_iff.mp kept with ⟨keptBefore, settled⟩
    have earlier := sound.inOrder keptBefore
    rwa [settled] at earlier

/-- The writes of `poll_once`. -/
theorem Sound.daemon {env : Env} (sound : state.Sound)
    (polled : state.daemon model env = some next) : next.Sound := by
  unfold CrashWorld.daemon at polled
  split at polled
  · next idle =>
      split at polled
      · rcases Option.some.inj polled with rfl
        exact sound
      · simp at polled
      · next execution ring engine served =>
          rcases Option.some.inj polled with rfl
          rcases pollOnce_served served with ⟨pending, request, _, _, _⟩
          exact sound.execute idle pending request
  · next reqRead execution executed =>
      rcases Option.some.inj polled with rfl
      exact sound.copy executed
  · next reqRead execution copied =>
      rcases Option.some.inj polled with rfl
      exact sound.consume copied
  · next execution consumed =>
      rcases Option.some.inj polled with rfl
      exact sound.writeCompletion consumed
  · next compWrite execution written =>
      rcases Option.some.inj polled with rfl
      exact sound.publish written

/-- Every step keeps the agreement. -/
theorem Sound.step (sound : state.Sound)
    (stepped : CrashWorld.step model state action = some next) : next.Sound := by
  cases action with
  | queueRq tag rq fate =>
      rcases Option.map_eq_some_iff.mp stepped with ⟨world, inner, rfl⟩
      exact sound.kernel (World.stepped_of_step inner) nofun
  | daemon env =>
      simp only [CrashWorld.step, Option.ite_none_right_eq_some] at stepped
      exact sound.daemon stepped.2
  | harvest =>
      rcases Option.map_eq_some_iff.mp stepped with ⟨world, inner, rfl⟩
      exact sound.kernel (World.stepped_of_step inner) nofun
  | timeout tag =>
      rcases Option.map_eq_some_iff.mp stepped with ⟨world, inner, rfl⟩
      exact sound.kernel (World.stepped_of_step inner) nofun
  | crash engine =>
      simp only [CrashWorld.step, Option.ite_none_right_eq_some, Option.some.injEq] at stepped
      rcases stepped with ⟨_, rfl⟩
      exact sound.crash engine
  | reopen threadStarts =>
      rw [CrashWorld.step, Option.map_eq_some_iff] at stepped
      rcases stepped with ⟨world, inner, rfl⟩
      exact sound.kernel (World.stepped_of_step inner) nofun

/-- Only a crash loses requests. -/
theorem lost_of_step (stepped : CrashWorld.step model state action = some next)
    (notCrash : ∀ engine, action ≠ .crash engine) : next.lost = state.lost := by
  cases action with
  | crash engine => exact absurd rfl (notCrash engine)
  | daemon env =>
      simp only [CrashWorld.step, Option.ite_none_right_eq_some] at stepped
      rcases stepped with ⟨_, polled⟩
      unfold CrashWorld.daemon at polled
      split at polled
      · split at polled
        · exact Option.some.inj polled ▸ rfl
        · simp at polled
        · exact Option.some.inj polled ▸ rfl
      all_goals exact Option.some.inj polled ▸ rfl
  | _ =>
      rw [CrashWorld.step, Option.map_eq_some_iff] at stepped
      rcases stepped with ⟨world, _, rfl⟩
      rfl

theorem lost_subset_of_step (stepped : CrashWorld.step model state action = some next) :
    state.lost ⊆ next.lost := by
  cases action with
  | crash engine =>
      simp only [CrashWorld.step, Option.ite_none_right_eq_some, Option.some.injEq] at stepped
      rcases stepped with ⟨_, rfl⟩
      exact List.subset_append_left _ _
  | _ =>
      rw [lost_of_step stepped nofun]
      exact List.Subset.refl _

/-- A crash in possession of a request is the only step which loses one. -/
theorem Sound.lost_eq_nil_iff (sound : state.Sound)
    (stepped : CrashWorld.step model state action = some next) :
    next.lost = [] ↔ state.lost = [] ∧ state.KeepsRequest action := by
  cases action with
  | crash engine =>
      simp only [CrashWorld.step, Option.ite_none_right_eq_some, Option.some.injEq] at stepped
      rcases stepped with ⟨_, rfl⟩
      rw [KeepsRequest, ← sound.inHand.pending_eq_none_iff]
      simp [CrashWorld.crash]
  | _ =>
      rw [lost_of_step stepped nofun]
      simp [KeepsRequest]

theorem Sound.waiting_iff (sound : state.Sound) (tag : ℕ) :
    state.Waiting tag ↔
      ∃ submission ∈ state.world.submitted.drop state.taken, submission.tag = tag := by
  have close : (state.world.submitted.map Submission.ring).length <
      state.taken + state.world.dev.ring.capacity := by
    simpa using sound.spare
  refine (sound.requests.exists_cell_iff close fun request => request.seq = tag + 1).trans ?_
  simp [← List.map_drop, Submission.ring, Request.toRing]

theorem Sound.answered_iff (sound : state.Sound) (tag : ℕ) :
    state.Answered tag ↔
      ∃ submission ∈ state.published.drop state.world.consumed, submission.tag = tag := by
  have cells := sound.completions.window.exists_count_iff fun seq => seq = tag + 1
  rw [List.length_map] at cells
  refine cells.trans ?_
  simp [← List.map_drop]

/-- Unless the completions fill the whole ring, they are those between `comp_read_idx` and
`comp_write_idx`. -/
theorem Sound.answered_iff_between (sound : state.Sound)
    (room : state.published.length < state.world.consumed + state.world.dev.ring.capacity)
    (tag : ℕ) :
    state.Answered tag ↔
      ∃ distance, distance < RingBuffer.span state.world.dev.ring.capacity
          state.world.dev.ring.compReadIdx state.world.dev.ring.compWriteIdx ∧
        (state.world.dev.ring.completions ((state.world.dev.ring.compReadIdx + distance) %
          state.world.dev.ring.capacity)).seq = tag + 1 := by
  rw [sound.answered_iff]
  refine Iff.trans ?_ (sound.completions.exists_cell_iff (by simpa using room)
    fun seq => seq = tag + 1).symm
  simp [← List.map_drop]

/-- The tag of a request which the daemon holds or has lost is not that of a request which waits
for the daemon or for the harvester. -/
theorem Sound.tag_ne (sound : state.Sound) {missing other : Submission}
    (isMissing : missing ∈ state.pending.toList ++ state.lost)
    (isOther : other ∈ state.world.submitted.drop state.taken ++
      state.published.drop state.world.consumed) :
    other.tag ≠ missing.tag := by
  have order : state.live.Perm ((state.world.submitted.drop state.taken ++
      state.published.drop state.world.consumed) ++ (state.pending.toList ++ state.lost)) := by
    rw [live, List.append_assoc]
    exact (List.perm_append_comm_assoc _ _ _).append_left _
  have distinct := (sound.tags.perm order).distinct
  rw [List.map_append, List.nodup_append] at distinct
  exact distinct.2.2 _ (List.mem_map_of_mem isOther) _ (List.mem_map_of_mem isMissing)

theorem Sound.accounted_iff (sound : state.Sound) :
    state.Accounted ↔ state.pending = none ∧ state.lost = [] := by
  constructor
  · rintro ⟨inFlight, _⟩
    have noneMissing : state.pending.toList ++ state.lost = [] := by
      rw [List.eq_nil_iff_forall_not_mem]
      intro missing isMissing
      have isLive : missing ∈ state.live := by
        rcases List.mem_append.mp isMissing with held | lost
        · simp [live, held]
        · simp [live, lost]
      rcases inFlight _ (sound.tags.state_eq_started isLive) with waiting | answered
      · rcases (sound.waiting_iff _).mp waiting with ⟨other, isWaiting, same⟩
        exact sound.tag_ne isMissing (List.mem_append_left _ isWaiting) same
      · rcases (sound.answered_iff _).mp answered with ⟨other, isAnswered, same⟩
        exact sound.tag_ne isMissing (List.mem_append_right _ isAnswered) same
    simpa using noneMissing
  · rintro ⟨settled, kept⟩
    refine ⟨?_, ?_⟩
    · intro tag isStarted
      rcases sound.tags.started tag isStarted with ⟨submission, isLive, rfl⟩
      simp only [live, settled, kept, Option.toList, List.nil_append, List.append_nil,
        List.mem_append] at isLive
      rcases isLive with isWaiting | isAnswered
      · exact Or.inl ((sound.waiting_iff _).mpr ⟨submission, isWaiting, rfl⟩)
      · exact Or.inr ((sound.answered_iff _).mpr ⟨submission, isAnswered, rfl⟩)
    · have inOrder := sound.inOrder kept
      rwa [settled, Option.toList, List.append_nil] at inOrder

end Steps

variable {model : EngineModel Env Engine}

theorem sound_of_run {ringEntries : ℕ} {engine : Engine} {actions : List (CrashAction Env Engine)}
    (initialised : duvmInit ringEntries = .ok dev)
    (ran : Transition.run (step model) (start dev engine) actions = some reached) :
    reached.Sound := by
  refine Transition.run_invariant (sound_start initialised engine) ?_ ran
  intro state action next sound stepped
  exact sound.step stepped

/-- A lost request is never ended. -/
theorem Sound.entry_of_lost {state : CrashWorld Engine} {actions : List (CrashAction Env Engine)}
    {submission : Submission} (sound : state.Sound) (isLost : submission ∈ state.lost)
    (ran : Transition.run (CrashWorld.step model) state actions = some reached) :
    reached.world.dev.tags submission.tag = submission.entry := by
  let Kept (current : CrashWorld Engine) : Prop := current.Sound ∧ submission ∈ current.lost
  have before : Kept state := ⟨sound, isLost⟩
  have after : Kept reached := by
    refine Transition.run_invariant before ?_ ran
    rintro current action next ⟨sound, isLost⟩ stepped
    exact ⟨sound.step stepped, lost_subset_of_step stepped isLost⟩
  exact after.1.tags.entries submission (by simp [live, after.2])

/-- Left alone, the daemon's writes add up to one call of `poll_once`. -/
theorem exists_run_of_pollOnce {env : Env} {state : CrashWorld Engine} {world : World Engine}
    (idle : state.progress = .idle) (polled : state.world.step model (.pollOnce env) = some world) :
    ∃ writes next, Transition.run (step model) state (List.replicate writes (.daemon env)) =
      some next ∧ next.world = world ∧ next.progress = .idle := by
  simp only [World.step, Option.ite_none_right_eq_some] at polled
  rcases polled with ⟨connected, polled⟩
  split at polled
  · exact ⟨0, state, rfl, Option.some.inj polled, idle⟩
  · simp at polled
  · next execution ring engine call =>
      rcases Option.some.inj polled with rfl
      rcases pollOnce_served call with ⟨_, _, rfl, _, _⟩
      let reqRead := state.world.dev.ring.reqReadIdx
      let compWrite := state.world.dev.ring.compWriteIdx
      let consumed := ((state.execute execution engine).copy reqRead execution).consume
        reqRead execution
      refine ⟨5, (consumed.writeCompletion execution).publish compWrite execution, ?_, ?_, rfl⟩
      · simp [List.replicate, Transition.run, step, daemon, idle, call, connected, consumed,
          execute, copy, consume, writeCompletion, publish, setRing, reqRead, compWrite]
      · rfl

/-- Every request is accounted for exactly when no daemon has died between its writes of
`req_read_idx` and `comp_write_idx`, and none is between them. -/
theorem accounted_iff_keepsRequest (model : EngineModel Env Engine) (ringEntries : ℕ)
    (initialised : duvmInit ringEntries = .ok dev) (engine : Engine)
    (actions : List (CrashAction Env Engine))
    (ran : Transition.run (step model) (start dev engine) actions = some reached) :
    reached.Accounted ↔
      reached.progress.holdsRequest = false ∧
        Transition.Along (step model) KeepsRequest (start dev engine) actions := by
  have sound := sound_of_run initialised ran
  have kept : reached.lost = [] ↔ (start dev engine).lost = [] ∧
      Transition.Along (step model) KeepsRequest (start dev engine) actions :=
    Transition.flag_iff_along (sound_start initialised engine)
      (fun state action next sound stepped => sound.step stepped)
      (fun state action next sound stepped => sound.lost_eq_nil_iff stepped) ran
  rw [sound.accounted_iff, sound.inHand.pending_eq_none_iff, kept]
  simp [start]

/-- The first request is answered; the daemon dies before it consumes the second one. -/
def earlyCrash : List (CrashAction Bool (UInt64 → Option PageBuffer)) :=
  [.reopen true, .queueRq 0 (.ofPage 0 .read .zero) noMemory,
    .queueRq 1 (.ofPage 1 .read .zero) noMemory, .daemon true, .daemon true, .daemon true,
    .daemon true, .daemon true, .daemon true, .daemon true, .crash fun _ => none, .reopen true]

theorem accounted_after_early_crash :
    ∃ dev reached, duvmInit 4 = .ok dev ∧
      Transition.run (step plainModel) (start dev fun _ => none) earlyCrash = some reached ∧
      (reached.world.dev.tags 0).state = .started ∧ (reached.world.dev.tags 1).state = .started ∧
      reached.published.length = 1 ∧ reached.taken = 1 ∧ reached.Accounted := by
  have ran : ∃ dev reached, duvmInit 4 = .ok dev ∧
      Transition.run (step plainModel) (start dev fun _ => none) earlyCrash = some reached ∧
      (reached.world.dev.tags 0).state = .started ∧ (reached.world.dev.tags 1).state = .started ∧
      reached.published.length = 1 ∧ reached.taken = 1 ∧
      reached.progress.holdsRequest = false ∧
      Transition.Along (step plainModel) KeepsRequest (start dev fun _ => none) earlyCrash :=
    ⟨_, _, rfl, rfl, rfl, rfl, rfl, rfl, rfl, by decide⟩
  rcases ran with
    ⟨dev, reached, initialised, ran, first, second, published, taken, idle, keeps⟩
  refine ⟨dev, reached, initialised, ran, first, second, published, taken, ?_⟩
  exact (accounted_iff_keepsRequest plainModel 4 initialised _ _ ran).mpr ⟨idle, keeps⟩

/-- The daemon dies after it has consumed the request and before it has answered it. -/
def lateCrash : List (CrashAction Bool (UInt64 → Option PageBuffer)) :=
  [.reopen true, .queueRq 0 (.ofPage 0 .read .zero) noMemory, .daemon true, .daemon true,
    .daemon true, .crash fun _ => none, .reopen true]

/-- The request is neither in the request ring nor answered, and nothing will ever end it. -/
theorem request_lost_in_late_crash :
    ∃ dev reached, duvmInit 4 = .ok dev ∧
      Transition.run (step plainModel) (start dev fun _ => none) lateCrash = some reached ∧
      (reached.world.dev.tags 0).state = .started ∧
      reached.world.dev.ring.reqReadIdx = reached.world.dev.ring.reqWriteIdx ∧
      reached.world.dev.ring.compReadIdx = reached.world.dev.ring.compWriteIdx ∧
      ¬ reached.Accounted ∧
      ∀ actions later, Transition.run (step plainModel) reached actions = some later →
        (later.world.dev.tags 0).state = .started := by
  have ran : ∃ dev reached submission, duvmInit 4 = .ok dev ∧
      Transition.run (step plainModel) (start dev fun _ => none) lateCrash = some reached ∧
      (reached.world.dev.tags 0).state = .started ∧
      reached.world.dev.ring.reqReadIdx = reached.world.dev.ring.reqWriteIdx ∧
      reached.world.dev.ring.compReadIdx = reached.world.dev.ring.compWriteIdx ∧
      reached.lost = [submission] ∧ submission.tag = 0 :=
    ⟨_, _, _, rfl, rfl, rfl, rfl, rfl, rfl, rfl⟩
  rcases ran with
    ⟨dev, reached, submission, initialised, ran, started, requests, completions, lost, isTag⟩
  have sound := sound_of_run initialised ran
  refine ⟨dev, reached, initialised, ran, started, requests, completions, ?_, ?_⟩
  · rw [sound.accounted_iff, lost]
    nofun
  · intro actions later ranOn
    have entry := sound.entry_of_lost (by rw [lost]; exact List.mem_singleton_self _) ranOn
    rw [isTag] at entry
    rw [entry]
    rfl

end CrashWorld

end Duvm.Kmod
