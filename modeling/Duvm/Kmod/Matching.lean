import Duvm.Kmod.Ownership

/-!
# Requests and completions match

Each request carries one page, so that it fits its staging slot. Between
`queue_rq` and `poll_once` the slot of a WRITE holds the page of its request,
and between `poll_once` and the harvester the slot of a READ holds the page
which the engine returned: no other party writes there, because slots are
owned. Together with the order of the rings this says that the engine executes
the requests as submitted and that each of them is ended once, with its own
result.
-/

namespace Duvm.Kmod

open Function (update)
open Duvm.Daemon

universe u v

/-- A request which carries exactly one page. -/
def Request.SinglePage (rq : Request) : Prop := rq.bytes.length = PAGE_SIZE

theorem Request.singlePage_ofPage (index : UInt64) (dir : Direction) (page : PageBuffer) :
    (Request.ofPage index dir page).SinglePage := by
  rw [SinglePage, bytes_ofPage, PageBuffer.length_toList]

/-- What a slot of the staging buffer holds. -/
def slotBytes (staging : ByteMemory) (slot : ℕ) : List UInt8 :=
  staging.read (slot * PAGE_SIZE) PAGE_SIZE

theorem slotBytes_write_self (staging : ByteMemory) (slot : ℕ) {bytes : List UInt8}
    (isPage : bytes.length = PAGE_SIZE) :
    slotBytes (staging.write (slot * PAGE_SIZE) bytes) slot = bytes := by
  rw [slotBytes, ← isPage, ByteMemory.read_write_self]

theorem slotBytes_write_of_ne (staging : ByteMemory) {slot other : ℕ} {bytes : List UInt8}
    (isPage : bytes.length = PAGE_SIZE) (different : other ≠ slot) :
    slotBytes (staging.write (slot * PAGE_SIZE) bytes) other = slotBytes staging other := by
  apply ByteMemory.read_write_of_disjoint
  rw [isPage]
  rcases Nat.lt_or_gt_of_ne different with below | above
  · have := Nat.mul_le_mul_right PAGE_SIZE (Nat.succ_le_of_lt below)
    rw [Nat.succ_mul] at this
    exact Or.inl this
  · have := Nat.mul_le_mul_right PAGE_SIZE (Nat.succ_le_of_lt above)
    rw [Nat.succ_mul] at this
    exact Or.inr this

/-- Staging a request changes its own slot only. -/
theorem slotBytes_stage_of_ne (staging : ByteMemory) {rq : Request} (single : rq.SinglePage)
    {slot other : ℕ} (different : other ≠ slot) :
    slotBytes (rq.stage staging slot) other = slotBytes staging other := by
  cases direction : rq.dir with
  | read => rw [Request.stage_of_read direction]
  | write => rw [Request.stage_of_write direction, slotBytes_write_of_ne _ single different]

/-- Serving a request changes its own slot only. -/
theorem slotBytes_fill_of_ne (staging : ByteMemory) (execution : Execution) {other : ℕ}
    (different : other ≠ execution.request.stagingSlot) :
    slotBytes (execution.fill staging) other = slotBytes staging other := by
  unfold Execution.fill
  split
  · exact slotBytes_write_of_ne _ (PageBuffer.length_toList _) different
  · rfl

/-- The engine has executed the requests one after the other. -/
inductive Trace {Env : Type u} {Engine : Type v} (model : EngineModel Env Engine)
    (initial : Engine) : List Execution → Engine → Prop where
  | nil : Trace model initial [] initial
  | snoc {executed : List Execution} {execution : Execution} {engine next : Engine}
      (earlier : Trace model initial executed engine)
      (executes : Executes model engine execution next) :
      Trace model initial (executed ++ [execution]) next

/-- The engine executed the operation of the request on its page index, and a WRITE handed
the engine its own page. -/
structure ExecutedFor (submission : Submission) (execution : Execution) : Prop where
  request : execution.request = submission.ring
  given : submission.rq.dir = .write →
    ∃ page, execution.given = some page ∧ page.toList = submission.rq.bytes
  returned : submission.rq.dir = .read → execution.result = 0 →
    ∃ page, execution.returned = some page

/-- The request was handed back with the result of the execution; a successful READ holds
the page which the engine returned. -/
structure EndedWith (submission : Submission) (execution : Execution) (ending : Ending) :
    Prop where
  tag : ending.tag = submission.tag
  pos : ending.completed.rq.pos = submission.rq.pos
  dir : ending.completed.rq.dir = submission.rq.dir
  status : ending.completed.status = if execution.result = 0 then .ok else .ioerr
  written : submission.rq.dir = .write → ending.completed.rq = submission.rq
  read : submission.rq.dir = .read → execution.result = 0 →
    ∃ page, execution.returned = some page ∧ ending.completed.rq.bytes = page.toList

namespace World

variable {Env : Type u} {Engine : Type v}

/-- The requests ended by the harvester. -/
def harvests (world : World Engine) : List Ending :=
  world.ended.filter fun ending => ending.path = .ring

theorem harvests_answered (world : World Engine) (tag slot : ℕ) (completed : Completed) :
    (world.answered tag slot completed).harvests =
      world.harvests ++ [⟨.ring, tag, completed⟩] := by
  simp [harvests, answered]

theorem harvests_endedLocally (world : World Engine) (tag : ℕ) (completed : Completed)
    (store : XArray) : (world.endedLocally tag completed store).harvests = world.harvests := by
  simp [harvests, endedLocally]

/-- The invariant behind the matching of requests and completions. -/
structure Staged (model : EngineModel Env Engine) (initial : Engine) (world : World Engine) :
    Prop where
  owned : world.Owned
  single : ∀ submission ∈ world.submitted, submission.rq.SinglePage
  waiting : ∀ (index : ℕ) (submission : Submission), world.executed.length ≤ index →
    world.submitted[index]? = some submission → submission.rq.dir = .write →
    slotBytes world.dev.ring.staging submission.slot = submission.rq.bytes
  answered : ∀ (index : ℕ) (submission : Submission) (execution : Execution) (page : PageBuffer),
    world.consumed ≤ index → world.submitted[index]? = some submission →
    world.executed[index]? = some execution → execution.returned = some page →
    slotBytes world.dev.ring.staging submission.slot = page.toList
  executions : ∀ (index : ℕ) (submission : Submission) (execution : Execution),
    world.submitted[index]? = some submission → world.executed[index]? = some execution →
    ExecutedFor submission execution
  harvested : world.harvests.length = world.consumed
  endings : ∀ (index : ℕ) (ending : Ending), world.harvests[index]? = some ending →
    ∃ submission execution, world.submitted[index]? = some submission ∧
      world.executed[index]? = some execution ∧ EndedWith submission execution ending
  trace : Trace model initial world.executed world.engine

theorem staged_start (model : EngineModel Env Engine) {ringEntries : ℕ} {dev : DuvmDevice}
    (initialised : duvmInit ringEntries = .ok dev) (engine : Engine) :
    (start dev engine).Staged model engine where
  owned := owned_start initialised engine
  single := nofun
  waiting := by simp [start]
  answered := by simp [start]
  executions := by simp [start]
  harvested := rfl
  endings := by simp [harvests, start]
  trace := .nil

variable {world : World Engine} {submission : Submission} {initial : Engine}
  {model : EngineModel Env Engine} {execution : Execution}

/-- Two requests in flight hold different slots. -/
theorem Owned.slot_ne (owned : world.Owned) {left right : ℕ} {first second : Submission}
    (leftLive : world.consumed ≤ left) (rightLive : world.consumed ≤ right)
    (different : left ≠ right) (leftIs : world.submitted[left]? = some first)
    (rightIs : world.submitted[right]? = some second) : first.slot ≠ second.slot := by
  intro same
  have distinct := owned.slots.distinct
  have leftSlot : (world.live.map Submission.slot)[left - world.consumed]? =
      some first.slot := by
    simp [live, List.getElem?_drop, Nat.add_sub_cancel' leftLive, leftIs]
  have rightSlot : (world.live.map Submission.slot)[right - world.consumed]? =
      some first.slot := by
    simp [live, List.getElem?_drop, Nat.add_sub_cancel' rightLive, rightIs, same]
  have equal := (List.getElem?_inj (Log.index_lt leftSlot) distinct).mp
    (leftSlot.trans rightSlot.symm)
  omega

theorem mem_live {index : ℕ} (inFlight : world.consumed ≤ index)
    (listed : world.submitted[index]? = some submission) :
    submission ∈ world.live := by
  apply List.mem_of_getElem? (i := index - world.consumed)
  rw [live, List.getElem?_drop, Nat.add_sub_cancel' inFlight, listed]

/-- Writing to a free slot disturbs no request in flight. -/
theorem Staged.slotBytes_stage (staged : world.Staged model initial) {rq : Request}
    (single : rq.SinglePage) {slot : ℕ} (free : world.dev.ring.stagingBitmap slot = false)
    {index : ℕ} (inFlight : world.consumed ≤ index)
    (listed : world.submitted[index]? = some submission) :
    slotBytes (rq.stage world.dev.ring.staging slot) submission.slot =
      slotBytes world.dev.ring.staging submission.slot :=
  slotBytes_stage_of_ne _ single (staged.owned.slots.slot_ne free (mem_live inFlight listed))

theorem Staged.refused (staged : world.Staged model initial) {tag : ℕ} {rq : Request} {slot : ℕ}
    (single : rq.SinglePage) (free : world.dev.ring.stagingBitmap slot = false)
    (owned : (world.refusedRing tag rq slot).Owned) :
    (world.refusedRing tag rq slot).Staged model initial := by
  have behind := staged.owned.coherent.rings.consumedLe
  refine { staged with owned := owned, waiting := ?_, answered := ?_ }
  · intro index submission unexecuted listed isWrite
    exact (staged.slotBytes_stage single free (behind.trans unexecuted) listed).trans
      (staged.waiting index submission unexecuted listed isWrite)
  · intro index submission execution page unharvested listed published returned
    exact (staged.slotBytes_stage single free unharvested listed).trans
      (staged.answered index submission execution page unharvested listed published returned)

theorem Staged.accepted (staged : world.Staged model initial) (single : submission.rq.SinglePage)
    (free : world.dev.ring.stagingBitmap submission.slot = false)
    (owned : (world.accepted submission).Owned) :
    (world.accepted submission).Staged model initial := by
  have behind := staged.owned.coherent.rings.consumedLe
  have within := staged.owned.coherent.rings.executedLe
  have executedInside : ∀ {index : ℕ} {execution : Execution},
      world.executed[index]? = some execution → index < world.submitted.length :=
    fun published => (Log.index_lt published).trans_le within
  have old_or_absurd : ∀ {index : ℕ} {other : Submission} {execution : Execution},
      (world.submitted ++ [submission])[index]? = some other →
        world.executed[index]? = some execution → world.submitted[index]? = some other := by
    intro index other execution listed published
    rw [List.getElem?_append_left (executedInside published)] at listed
    exact listed
  refine { staged with
    owned := owned, single := ?_, waiting := ?_, answered := ?_, executions := ?_,
    endings := ?_ }
  · intro other listed
    rcases List.mem_append.mp listed with old | new
    · exact staged.single other old
    · rw [List.mem_singleton.mp new]
      exact single
  · intro index other unexecuted listed isWrite
    rcases Log.old_or_new listed with old | ⟨rfl, rfl⟩
    · exact (staged.slotBytes_stage single free (behind.trans unexecuted) old).trans
        (staged.waiting index other unexecuted old isWrite)
    · change slotBytes (other.rq.stage world.dev.ring.staging other.slot) other.slot = _
      rw [Request.stage_of_write isWrite, slotBytes_write_self _ _ single]
  · intro index other execution page unharvested listed published returned
    have old := old_or_absurd listed published
    exact (staged.slotBytes_stage single free unharvested old).trans
      (staged.answered index other execution page unharvested old published returned)
  · intro index other execution listed published
    exact staged.executions index other execution (old_or_absurd listed published) published
  · intro index ending ended
    rcases staged.endings index ending ended with ⟨other, execution, listed, published, endedWith⟩
    exact ⟨other, execution, Log.keep listed, published, endedWith⟩

/-- The engine executes the oldest request it has not executed, on the request's own page. -/
theorem Staged.executedFor (staged : world.Staged model initial) {next : Engine}
    (waiting : world.submitted[world.executed.length]? = some submission)
    (request : execution.request = submission.ring)
    (executes : Executes model world.engine execution next)
    (given : ∀ page, execution.given = some page →
      page = readPage world.dev.ring.staging (execution.request.stagingSlot * PAGE_SIZE)) :
    ExecutedFor submission execution := by
  refine { request := request, given := ?_, returned := ?_ }
  · intro isWrite
    have isStore : execution.request.op = .store := by
      rw [request]
      simp [Submission.ring, Request.toRing, isWrite]
    rcases executes.exists_given isStore with ⟨page, isGiven⟩
    refine ⟨page, isGiven, ?_⟩
    rw [given page isGiven, request, toList_readPage]
    exact staged.waiting _ submission (le_refl _) waiting isWrite
  · intro isRead succeeded
    have isLoad : execution.request.op = .load := by
      rw [request]
      simp [Submission.ring, Request.toRing, isRead]
    exact executes.exists_returned isLoad succeeded

theorem Staged.served (staged : world.Staged model initial) {engine : Engine}
    (pending : world.dev.ring.reqReadIdx ≠ world.dev.ring.reqWriteIdx)
    (request : execution.request = world.dev.ring.requests world.dev.ring.reqReadIdx)
    (executes : Executes model world.engine execution engine)
    (given : ∀ page, execution.given = some page →
      page = readPage world.dev.ring.staging (execution.request.stagingSlot * PAGE_SIZE))
    (owned : (world.served execution engine).Owned) :
    (world.served execution engine).Staged model initial := by
  have behind := staged.owned.coherent.rings.consumedLe
  rcases staged.owned.coherent.rings.exists_waiting pending with ⟨current, waiting, cell⟩
  have isRequest : execution.request = current.ring := request.trans cell
  have executedFor := staged.executedFor waiting isRequest executes given
  have elsewhere : ∀ {index : ℕ} {submission : Submission}, world.consumed ≤ index →
      index ≠ world.executed.length → world.submitted[index]? = some submission →
      slotBytes (execution.fill world.dev.ring.staging) submission.slot =
        slotBytes world.dev.ring.staging submission.slot := by
    intro index submission inFlight different listed
    apply slotBytes_fill_of_ne
    rw [isRequest]
    exact staged.owned.slot_ne inFlight behind different listed waiting
  refine { staged with
    owned := owned, waiting := ?_, answered := ?_, executions := ?_, endings := ?_,
    trace := staged.trace.snoc executes }
  · intro index submission unexecuted listed isWrite
    simp only [World.served, List.length_append, List.length_singleton] at unexecuted
    exact (elsewhere (by omega) (by omega) listed).trans
      (staged.waiting index submission (by omega) listed isWrite)
  · intro index submission other page unharvested listed published returned
    rcases Log.old_or_new published with old | ⟨rfl, rfl⟩
    · exact (elsewhere unharvested (Log.index_lt old).ne listed).trans
        (staged.answered index submission other page unharvested listed old returned)
    · have same : submission = current := Option.some.inj (listed.symm.trans waiting)
      subst same
      change slotBytes (other.fill world.dev.ring.staging) submission.slot = _
      rw [Execution.fill, returned, isRequest]
      exact slotBytes_write_self _ _ (PageBuffer.length_toList page)
  · intro index submission other listed published
    rcases Log.old_or_new published with old | ⟨rfl, rfl⟩
    · exact staged.executions index submission other listed old
    · have same : submission = current := Option.some.inj (listed.symm.trans waiting)
      subst same
      exact executedFor
  · intro index ending ended
    rcases staged.endings index ending ended with ⟨other, earlier, listed, published, endedWith⟩
    exact ⟨other, earlier, listed, Log.keep published, endedWith⟩

/-- The harvester hands back the oldest request in flight with its own result and page. -/
theorem Staged.endedWith (staged : world.Staged model initial)
    (listed : world.submitted[world.consumed]? = some submission)
    (published : world.executed[world.consumed]? = some execution) :
    EndedWith submission execution
      ⟨.ring, submission.tag,
        world.answer submission.rq submission.entry.cmd execution.result⟩ := by
  have single := staged.single submission (List.mem_of_getElem? listed)
  refine { tag := rfl, status := rfl, pos := ?_, dir := ?_, written := ?_, read := ?_ }
  · simp only [answer]
    split <;> rfl
  · simp only [answer]
    split <;> rfl
  · intro isWrite
    simp [answer, Submission.entry, isWrite]
  · intro isRead succeeded
    rcases (staged.executions _ submission execution listed published).returned isRead
      succeeded with ⟨page, returned⟩
    refine ⟨page, returned, ?_⟩
    have inSlot := staged.answered _ submission execution page (le_refl _) listed published
      returned
    have isPage : submission.rq.bytes.length = PAGE_SIZE := single
    have filled := submission.rq.bytes_unstage world.dev.ring.staging submission.slot
    rw [isPage] at filled
    rw [← inSlot, slotBytes, ← filled]
    simp [answer, Submission.entry, isRead, succeeded]

theorem Staged.harvest (staged : world.Staged model initial)
    (listed : world.submitted[world.consumed]? = some submission)
    (published : world.executed[world.consumed]? = some execution)
    (owned : (world.answered submission.tag submission.slot
      (world.answer submission.rq submission.entry.cmd execution.result)).Owned) :
    (world.answered submission.tag submission.slot
      (world.answer submission.rq submission.entry.cmd execution.result)).Staged model
        initial := by
  have endedWith := staged.endedWith listed published
  refine { staged with owned := owned, answered := ?_, harvested := ?_, endings := ?_ }
  · intro index other earlier page unharvested
    exact staged.answered index other earlier page (Nat.le_of_succ_le unharvested)
  · rw [harvests_answered, List.length_append, staged.harvested]
    rfl
  · intro index ending ended
    rw [harvests_answered] at ended
    rcases Log.old_or_new ended with old | ⟨rfl, rfl⟩
    · exact staged.endings index ending old
    · rw [staged.harvested]
      exact ⟨submission, execution, listed, published, endedWith⟩

theorem Staged.endedLocally (staged : world.Staged model initial) {tag : ℕ}
    {completed : Completed} {store : XArray}
    (owned : (world.endedLocally tag completed store).Owned) :
    (world.endedLocally tag completed store).Staged model initial := by
  refine { staged with owned := owned, harvested := ?_, endings := ?_ }
  · rw [harvests_endedLocally]
    exact staged.harvested
  · rw [harvests_endedLocally]
    exact staged.endings

/-- Requests carry one page and none of them times out. -/
def PagesOnly : Action Env → Prop
  | .queueRq _ rq _ => rq.SinglePage
  | .timeout _ => False
  | _ => True

theorem Staged.stepped {world next : World Engine} {action : Action Env}
    (staged : world.Staged model initial) (pages : PagesOnly action)
    (stepped : Stepped model world action next) :
    next.Staged model initial := by
  have noTimeout : ∀ tag, action ≠ .timeout tag := by
    rintro tag rfl
    exact pages
  have owned := staged.owned.stepped noTimeout stepped
  cases stepped with
  | unchanged => exact staged
  | refused _ free => exact staged.refused pages free owned
  | accepted submission _ _ _ _ free => exact staged.accepted pages free owned
  | written => exact staged.endedLocally owned
  | read => exact staged.endedLocally owned
  | served execution pending request executes given =>
      exact staged.served pending request executes given owned
  | skipped pending unknown => exact (staged.owned.coherent.not_skipped pending unknown).elim
  | answered pending seq listed =>
      rcases staged.owned.coherent.answered_oldest pending seq listed with
        ⟨submission, execution, found, published, _, _, rfl, rfl, cmd, result⟩
      rw [cmd, result] at owned ⊢
      exact staged.harvest found published owned
  | timedOut => exact pages.elim
  | opened => exact { staged with owned := owned }
  | released => exact { staged with owned := owned }

theorem staged_of_run {ringEntries : ℕ} {dev : DuvmDevice} {engine : Engine}
    {actions : List (Action Env)} {reached : World Engine}
    (initialised : duvmInit ringEntries = .ok dev) (pages : ∀ action ∈ actions, PagesOnly action)
    (ran : Transition.run (step model) (start dev engine) actions = some reached) :
    reached.Staged model engine := by
  have along : Transition.Along (step model) (fun _ action => PagesOnly action)
      (start dev engine) actions := by
    apply Transition.along_of_forall
    rintro before action after middle rfl _
    exact pages action (by simp)
  refine Transition.run_induction (staged_start model initialised engine) ?_ along ran
  intro world action next staged good stepped
  exact staged.stepped good (stepped_of_step stepped)

/-- The engine has executed the submitted requests in order, each with its own operation,
index and page; the harvester has ended them in the same order, once each, with the result
and the page of their executions; the others are in flight. -/
structure Matched (model : EngineModel Env Engine) (initial : Engine) (world : World Engine) :
    Prop where
  executions : ∀ (index : ℕ) (execution : Execution), world.executed[index]? = some execution →
    ∃ submission, world.submitted[index]? = some submission ∧ ExecutedFor submission execution
  trace : Trace model initial world.executed world.engine
  endings : ∀ (index : ℕ) (ending : Ending), world.harvests[index]? = some ending →
    ∃ submission execution, world.submitted[index]? = some submission ∧
      world.executed[index]? = some execution ∧ ExecutedFor submission execution ∧
      EndedWith submission execution ending
  inFlight : ∀ tag, (world.dev.tags tag).state = .started ↔
    ∃ submission ∈ world.submitted.drop world.harvests.length, submission.tag = tag

theorem requests_match_completions (model : EngineModel Env Engine) (ringEntries : ℕ)
    {dev : DuvmDevice} (initialised : duvmInit ringEntries = .ok dev) (engine : Engine)
    (actions : List (Action Env)) (pages : ∀ action ∈ actions, PagesOnly action)
    {final : World Engine}
    (ran : Transition.run (step model) (start dev engine) actions = some final) :
    final.Matched model engine := by
  have staged := staged_of_run initialised pages ran
  refine { executions := ?_, trace := staged.trace, endings := ?_, inFlight := ?_ }
  · intro index execution executed
    rcases staged.owned.coherent.rings.answers index execution executed with
      ⟨submission, listed, _⟩
    exact ⟨submission, listed, staged.executions index submission execution listed executed⟩
  · intro index ending ended
    rcases staged.endings index ending ended with
      ⟨submission, execution, listed, executed, endedWith⟩
    exact ⟨submission, execution, listed, executed,
      staged.executions index submission execution listed executed, endedWith⟩
  · intro tag
    rw [staged.harvested]
    constructor
    · exact staged.owned.coherent.tags.started tag
    · rintro ⟨submission, inFlight, rfl⟩
      exact staged.owned.coherent.tags.state_eq_started inFlight

/-- A page is written and read back through the daemon. -/
def writeThenRead : List (Action Bool) :=
  [.ctlOpen true, .queueRq 0 (Request.ofPage 3 .write (.filled 7)) noMemory, .pollOnce true,
    .harvest, .queueRq 1 (Request.ofPage 3 .read .zero) noMemory, .pollOnce true, .harvest]

theorem writeThenRead_matched :
    ∃ dev final, duvmInit 2 = .ok dev ∧
      Transition.run (step plainModel) (start dev fun _ => none) writeThenRead = some final ∧
      final.harvests.length = 2 ∧ final.Matched plainModel fun _ => none := by
  refine ⟨_, _, rfl, rfl, rfl,
    requests_match_completions plainModel 2 rfl _ writeThenRead ?_ rfl⟩
  simp [writeThenRead, PagesOnly, Request.singlePage_ofPage]

end World

end Duvm.Kmod
