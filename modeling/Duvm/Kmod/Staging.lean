import Duvm.Kmod.Fallback

/-!
# Copies into and out of a staging slot

A slot of the staging area is one page. `duvm_queue_rq` copies the segments of
a WRITE one behind the other from the start of the slot, and the completion
thread copies them back for a READ; neither looks at the end of the slot. The
queue limits let requests of up to 32 pages through.

A request stays in its slot exactly if it has no more than a page of data.
-/

namespace Duvm.Kmod

/-- The bytes of a staging slot. -/
def slotRegion (slot : ℕ) : Region := ⟨slot * PAGE_SIZE, PAGE_SIZE⟩

/-- The device with other bytes in its staging buffer. -/
def DuvmDevice.withStaging (dev : DuvmDevice) (staging : ByteMemory) : DuvmDevice :=
  { dev with ring := { dev.ring with staging := staging } }

namespace Request

/-- Whatever slot it is given, queueing the request writes nowhere else, be it the slot of another
request or memory behind the staging area. -/
def StagesInSlot (rq : Request) : Prop :=
  ∀ dev fate tag slot ring, dev.ring.daemonConnected = true →
    duvmAllocStagingSlot dev.ring = (some slot, ring) →
    ∀ location, location ∉ slotRegion slot →
      (duvmQueueRq dev fate tag rq).dev.ring.staging location = dev.ring.staging location

/-- Whatever slot it has been given, what the completion thread hands back depends on no other
byte of the staging buffer. -/
def CopiesFromSlot (rq : Request) : Prop :=
  ∀ dev tag completed staging, (dev.tags tag).rq = some rq →
    ByteMemory.AgreeOn (slotRegion (dev.tags tag).cmd.stagingSlot) dev.ring.staging staging →
    (duvmCompletionThread dev).bind HarvestResult.ended = some (tag, completed) →
    (duvmCompletionThread (dev.withStaging staging)).bind HarvestResult.ended =
      some (tag, completed)

/-- The copies which are made for the request stay in its slot. -/
def StaysInSlot (rq : Request) : Prop :=
  match rq.dir with
  | .write => rq.StagesInSlot
  | .read => rq.CopiesFromSlot

end Request

theorem staging_duvmRingSubmit (ring : DuvmRing) (req : DuvmRequest) :
    (duvmRingSubmit ring req).2.staging = ring.staging := by
  unfold duvmRingSubmit
  split
  · rfl
  · simp only
    split
    · rfl
    · rfl

/-- Whether or not the request can be submitted, the staging buffer has its bytes. -/
theorem staging_queueRqAsync {dev : DuvmDevice} {slot : ℕ} {ring : DuvmRing}
    (allocated : duvmAllocStagingSlot dev.ring = (some slot, ring)) (tag : ℕ) (rq : Request) :
    (queueRqAsync dev tag rq).dev.ring.staging = rq.stage dev.ring.staging slot := by
  rcases duvmAllocStagingSlot_eq_some allocated with ⟨_, _, rfl⟩
  unfold queueRqAsync
  rw [allocated]
  simp only
  generalize isStaged : DuvmRing.mk _ _ _ _ _ _ _ (rq.stage dev.ring.staging slot) _ _ _ = staged
  have bytes : staged.staging = rq.stage dev.ring.staging slot := by rw [← isStaged]
  rw [← bytes, ← staging_duvmRingSubmit staged (rq.toRing tag slot)]
  cases submitted : duvmRingSubmit staged (rq.toRing tag slot) with
  | mk result after =>
      cases result with
      | ok _ => rfl
      | error errno =>
          cases errno with
          | eagain | enodev | ebusy | einval | enomem => rfl

theorem staging_duvmQueueRq {dev : DuvmDevice} {slot : ℕ} {ring : DuvmRing}
    (connected : dev.ring.daemonConnected = true)
    (allocated : duvmAllocStagingSlot dev.ring = (some slot, ring)) (fate : ℕ → MemoryFate)
    (tag : ℕ) (rq : Request) :
    (duvmQueueRq dev fate tag rq).dev.ring.staging = rq.stage dev.ring.staging slot := by
  rw [duvmQueueRq, if_pos connected, staging_queueRqAsync allocated]

/-- What the completion thread hands back of a request: the one which is issued under the tag,
for a READ with the bytes which were copied out of its slot. -/
theorem ended_eq_some_iff {dev : DuvmDevice} {tag : ℕ} {rq : Request} {completed : Completed}
    (issued : (dev.tags tag).rq = some rq) :
    (duvmCompletionThread dev).bind HarvestResult.ended = some (tag, completed) ↔
      ∃ comp ring, duvmRingPollCompletion dev.ring = (.ok comp, ring) ∧
        tagOfSeq dev.queueDepth comp.seq = some tag ∧
        completed = ⟨if (dev.tags tag).cmd.isRead ∧ comp.result = 0 then
            rq.unstage dev.ring.staging (dev.tags tag).cmd.stagingSlot else rq,
          if comp.result = 0 then .ok else .ioerr⟩ := by
  unfold duvmCompletionThread
  cases polled : duvmRingPollCompletion dev.ring with
  | mk result ring =>
      cases result with
      | error errno => simp
      | ok comp =>
          rcases duvmRingPollCompletion_eq_ok polled with ⟨_, _, rfl⟩
          simp only [Prod.mk.injEq, Except.ok.injEq, existsAndEq, and_true, true_and]
          cases found : tagOfSeq dev.queueDepth comp.seq with
          | none => simp
          | some other =>
              by_cases same : other = tag
              · subst same
                simp only [issued, Option.bind_some, Option.some.injEq, Prod.mk.injEq, true_and]
                exact eq_comm
              · cases entry : (dev.tags other).rq with
                | none => simp [entry, same]
                | some _ => simp [entry, same]

/-- Copies out of a region see the same bytes in memories which agree on it. -/
theorem unstageSegments_agree {left right : ByteMemory} {region : Region} {address : ℕ}
    {segments : List BioVec} (agree : ByteMemory.AgreeOn region left right)
    (above : region.base ≤ address)
    (below : address + (segments.flatMap BioVec.data).length ≤ region.base + region.size) :
    unstageSegments left address segments = unstageSegments right address segments := by
  induction segments generalizing address with
  | nil => rfl
  | cons bvec rest ih =>
      rw [List.flatMap_cons, List.length_append] at below
      have bytes : left.read address bvec.data.length = right.read address bvec.data.length := by
        apply List.map_congr_left
        intro index inRange
        have inside := List.mem_range.mp inRange
        exact agree _ ⟨by omega, by omega⟩
      rw [unstageSegments, unstageSegments, bytes, ih (by omega) (by omega)]

/-- A device with one slot, which is free. -/
def oneSlot (staging : ByteMemory) : DuvmDevice where
  ring := { duvmRingInit 1 1 with staging := staging, daemonConnected := true }
  queueDepth := 1
  tags := fun _ => ⟨none, ⟨0, 0, false⟩, .idle⟩
  pageStore := fun _ => none

/-- A device in which a READ has just been served. -/
def served (rq : Request) (staging : ByteMemory) : DuvmDevice where
  ring := { duvmRingInit 2 2 with
    staging := staging, daemonConnected := true, completions := fun _ => ⟨1, 0, 0⟩,
    compWriteIdx := 1 }
  queueDepth := 2
  tags := fun _ => ⟨some rq, ⟨1, 0, true⟩, .started⟩
  pageStore := fun _ => none

namespace Request

variable {rq : Request}

theorem stagesInSlot_iff (isWrite : rq.dir = .write) :
    rq.StagesInSlot ↔ rq.bytes.length ≤ PAGE_SIZE := by
  constructor
  · intro inSlot
    apply (ByteMemory.write_inside_iff (slotRegion 0) rq.bytes).mp
    intro memory location outside
    have kept := inSlot (oneSlot memory) noMemory 0 0 _ rfl rfl location outside
    rw [staging_duvmQueueRq rfl rfl, stage_of_write isWrite] at kept
    exact kept
  · intro short dev fate tag slot ring connected allocated location outside
    rw [staging_duvmQueueRq connected allocated, stage_of_write isWrite]
    exact (ByteMemory.write_inside_iff (slotRegion slot) rq.bytes).mpr short _ location outside

theorem copiesFromSlot_iff : rq.CopiesFromSlot ↔ rq.bytes.length ≤ PAGE_SIZE := by
  constructor
  · intro fromSlot
    apply (ByteMemory.read_inside_iff (slotRegion 0) rq.bytes.length).mp
    intro left right agree
    have same := fromSlot (served rq left) 0 ⟨rq.unstage left 0, .ok⟩ right rfl agree rfl
    have result : (duvmCompletionThread ((served rq left).withStaging right)).bind
        HarvestResult.ended = some (0, ⟨rq.unstage right 0, .ok⟩) := rfl
    rw [result, Option.some.injEq, Prod.mk.injEq, Completed.mk.injEq] at same
    have bytes := congrArg Request.bytes same.2.1
    rw [bytes_unstage, bytes_unstage] at bytes
    exact bytes.symm
  · intro short dev tag completed staging issued agree ended
    rcases (ended_eq_some_iff issued).mp ended with ⟨comp, ring, polled, isTag, isCompleted⟩
    have stillIssued : ((dev.withStaging staging).tags tag).rq = some rq := issued
    have filled : rq.unstage dev.ring.staging (dev.tags tag).cmd.stagingSlot =
        rq.unstage staging (dev.tags tag).cmd.stagingSlot := by
      have same := @unstageSegments_agree _ _ _ _ rq.segments agree (Nat.le_refl _)
        (Nat.add_le_add_left short _)
      exact congrArg (fun segments => { rq with segments := segments }) same
    refine (ended_eq_some_iff stillIssued).mpr
      ⟨comp, { ring with staging := staging }, ?_, isTag, ?_⟩
    · rcases duvmRingPollCompletion_eq_ok polled with ⟨pending, rfl, rfl⟩
      exact if_neg pending
    · rw [isCompleted, filled]
      rfl

/-- Staging copies stay in their slot exactly for the requests of no more than a page. -/
theorem staysInSlot_iff (rq : Request) : rq.StaysInSlot ↔ rq.bytes.length ≤ PAGE_SIZE := by
  cases direction : rq.dir with
  | write =>
      simp only [StaysInSlot, direction]
      exact stagesInSlot_iff direction
  | read =>
      simp only [StaysInSlot, direction]
      exact copiesFromSlot_iff

end Request

/-- Two pages which are written at once. -/
def twoPageWrite : Request := .ofPages 0 .write [.filled 1, .filled 2]

theorem getElem?_bytes_twoPageWrite : twoPageWrite.bytes[PAGE_SIZE]? = some 2 := by
  have bytes : twoPageWrite.bytes =
      (PageBuffer.filled 1).toList ++ (PageBuffer.filled 2).toList := by
    simp [twoPageWrite, Request.ofPages, Request.bytes]
  have second : (PageBuffer.filled 2).toList = List.replicate PAGE_SIZE 2 :=
    Vector.toList_replicate
  have length := PageBuffer.length_toList (PageBuffer.filled 1)
  rw [bytes, List.getElem?_append_right (Nat.le_of_eq length), length, Nat.sub_self, second]
  rfl

theorem stage_twoPageWrite (staging : ByteMemory) (slot : ℕ) :
    twoPageWrite.stage staging slot ((slot + 1) * PAGE_SIZE) = 2 := by
  rw [Request.stage_of_write rfl, Nat.succ_mul]
  exact ByteMemory.write_apply_of_mem getElem?_bytes_twoPageWrite

/-- A WRITE of two pages, which the queue limits let through, overwrites the slot behind its own;
in the last slot, it writes behind the staging area. -/
theorem twoPageWrite_leaves_slot :
    twoPageWrite.Admitted ∧ ∃ dev opened, duvmInit 2 = .ok dev ∧
      duvmCtlOpen dev true = (.ok (), opened) ∧ opened.ring.stagingPages = 2 ∧
      (duvmAllocStagingSlot opened.ring).1 = some 0 ∧
      opened.ring.staging (1 * PAGE_SIZE) = 0 ∧
      (duvmQueueRq opened noMemory 0 twoPageWrite).dev.ring.staging (1 * PAGE_SIZE) = 2 ∧
      ∃ busy, busy = (duvmQueueRq opened noMemory 0 (.ofPage 7 .write (.filled 1))).dev ∧
        (duvmAllocStagingSlot busy.ring).1 = some 1 ∧
        busy.ring.staging (2 * PAGE_SIZE) = 0 ∧
        (duvmQueueRq busy noMemory 1 twoPageWrite).dev.ring.staging (2 * PAGE_SIZE) = 2 := by
  refine ⟨Request.admitted_ofPages _ _ (by decide), _, _, rfl, rfl, rfl, rfl, rfl, ?_, _, rfl,
    rfl, ?_, ?_⟩
  · rw [@staging_duvmQueueRq _ 0 _ rfl rfl]
    exact stage_twoPageWrite _ 0
  · rw [@staging_duvmQueueRq _ 0 _ rfl rfl, Request.stage_of_write rfl]
    refine ByteMemory.write_apply_of_outside (.inr ?_)
    rw [Request.bytes_ofPage, PageBuffer.length_toList]
    decide
  · rw [@staging_duvmQueueRq _ 1 _ rfl rfl]
    exact stage_twoPageWrite _ 1

end Duvm.Kmod
