import Duvm.Kmod.System

/-!
# The two paths of `duvm_queue_rq`

Requests issued one at a time, served by the daemon through the ring or by the
module itself from the xarray. The ring path stores one page under one index for a
request, whatever its length, and copies from the start of a staging slot; the
xarray path stores under an index for each segment, at the offset which the segment
has in its memory page. So the two agree on requests for whole pages whose segments
lie where their bytes lie in the page, and on reads of pages written before.
-/

namespace Duvm.Kmod

open Function (update)
open Duvm.Daemon

/-- What the queue limits of `duvm_init` let through: a whole number of sectors, at most 32
pages, in segments each of which is inside a memory page. -/
structure Request.Admitted (rq : Request) : Prop where
  sectors : DUVM_SECTOR_SIZE ∣ rq.bytes.length
  short : rq.bytes.length ≤ 32 * PAGE_SIZE
  inPage : ∀ bvec ∈ rq.segments,
    0 < bvec.data.length ∧ bvec.bvOffset % PAGE_SIZE + bvec.data.length ≤ PAGE_SIZE

/-- Each segment lies in its memory page where its bytes lie in the page on the device. -/
def Packed : ℕ → List BioVec → Prop
  | _, [] => True
  | before, bvec :: rest =>
      0 < bvec.data.length ∧ bvec.bvOffset % PAGE_SIZE = before ∧
        Packed (before + bvec.data.length) rest

/-- A request inside one page, from its start; a WRITE covers the page. -/
structure Request.Paged (rq : Request) : Prop where
  aligned : rq.pos % UInt64.ofNat DUVM_PAGE_SECTORS = 0
  packed : Packed 0 rq.segments
  short : rq.bytes.length ≤ PAGE_SIZE
  covers : rq.dir = .write → rq.bytes.length = PAGE_SIZE

/-- The sectors of a page have its index. -/
theorem pageIndex_add {pos : UInt64} (aligned : pos % UInt64.ofNat DUVM_PAGE_SECTORS = 0)
    {count : ℕ} (small : count < DUVM_PAGE_SECTORS) :
    pageIndex (pos + UInt64.ofNat count) = pageIndex pos := by
  have sectors : (UInt64.ofNat DUVM_PAGE_SECTORS).toNat = 8 := rfl
  have eight : DUVM_PAGE_SECTORS = 8 := rfl
  have limit := pos.toNat_lt
  have fits : count < UInt64.size := by
    rw [eight] at small
    exact small.trans (by decide)
  have whole := congrArg UInt64.toNat aligned
  rw [UInt64.toNat_mod, sectors] at whole
  change pos.toNat % 8 = 0 at whole
  apply UInt64.toNat_inj.mp
  rw [pageIndex, pageIndex, UInt64.toNat_div, UInt64.toNat_div, sectors, UInt64.toNat_add,
    UInt64.toNat_ofNat_of_lt' fits, Nat.mod_eq_of_lt (by omega)]
  omega

/-- A segment inside a page begins in one of its sectors. -/
theorem count_lt {before count : ℕ} {bvec : BioVec} {rest : List BioVec}
    (reached : count * DUVM_SECTOR_SIZE ≤ before) (positive : 0 < bvec.data.length)
    (short : before + ((bvec :: rest).flatMap BioVec.data).length ≤ PAGE_SIZE) :
    count < DUVM_PAGE_SECTORS := by
  have page : PAGE_SIZE = DUVM_PAGE_SECTORS * DUVM_SECTOR_SIZE := rfl
  rw [List.flatMap_cons, List.length_append, page] at short
  apply Nat.lt_of_mul_lt_mul_right (a := DUVM_SECTOR_SIZE)
  omega

theorem add_sectorsOf (pos : UInt64) (count length : ℕ) :
    pos + UInt64.ofNat count + sectorsOf length =
      pos + UInt64.ofNat (count + length / DUVM_SECTOR_SIZE) := by
  rw [sectorsOf, UInt64.ofNat_add, UInt64.add_assoc]

section XArray

variable {pos : UInt64} {segments : List BioVec} {before count : ℕ}

/-- Segments inside a page which is stored are written there one behind the other. -/
theorem xarrayWrite_packed (aligned : pos % UInt64.ofNat DUVM_PAGE_SECTORS = 0)
    (fate : ℕ → MemoryFate) (segment : ℕ) {store : XArray} {stored : ByteMemory}
    (found : store (pageIndex pos) = some stored) (packed : Packed before segments)
    (reached : count * DUVM_SECTOR_SIZE ≤ before)
    (short : before + (segments.flatMap BioVec.data).length ≤ PAGE_SIZE) :
    xarrayWrite fate store segment (pos + UInt64.ofNat count) segments =
      (true, update store (pageIndex pos)
        (some (stored.write before (segments.flatMap BioVec.data)))) := by
  induction segments generalizing store stored before count segment with
  | nil =>
      have same : stored.write before [] = stored := by
        funext location
        simp [ByteMemory.write]
      rw [xarrayWrite, List.flatMap_nil, same, ← found, Function.update_eq_self]
  | cons bvec rest ih =>
      rcases packed with ⟨positive, isOffset, packed⟩
      have index := pageIndex_add aligned (count_lt reached positive short)
      have floor := Nat.div_mul_le_self bvec.data.length DUVM_SECTOR_SIZE
      rw [xarrayWrite]
      simp only [index, found, isOffset, add_sectorsOf]
      rw [ih (segment + 1) (Function.update_self _ _ _) packed, ByteMemory.write_append,
        Function.update_idem, List.flatMap_cons]
      · rw [Nat.add_mul]
        omega
      · rw [List.flatMap_cons, List.length_append] at short
        omega

/-- Segments inside a page which is stored are read from there one behind the other. -/
theorem xarrayRead_packed (aligned : pos % UInt64.ofNat DUVM_PAGE_SECTORS = 0) {store : XArray}
    {stored : ByteMemory} (found : store (pageIndex pos) = some stored)
    (packed : Packed before segments) (reached : count * DUVM_SECTOR_SIZE ≤ before)
    (short : before + (segments.flatMap BioVec.data).length ≤ PAGE_SIZE) :
    xarrayRead store (pos + UInt64.ofNat count) segments =
      unstageSegments stored before segments := by
  induction segments generalizing before count with
  | nil => rfl
  | cons bvec rest ih =>
      rcases packed with ⟨positive, isOffset, packed⟩
      have index := pageIndex_add aligned (count_lt reached positive short)
      have floor := Nat.div_mul_le_self bvec.data.length DUVM_SECTOR_SIZE
      rw [xarrayRead, unstageSegments]
      simp only [index, found, isOffset, add_sectorsOf]
      rw [ih packed]
      · rw [Nat.add_mul]
        omega
      · rw [List.flatMap_cons, List.length_append] at short
        omega

/-- What is copied out depends on the page only. -/
theorem unstageSegments_congr {memory other : ByteMemory} {base : ℕ}
    (same : readPage memory 0 = readPage other base)
    (short : before + (segments.flatMap BioVec.data).length ≤ PAGE_SIZE) :
    unstageSegments memory before segments = unstageSegments other (base + before) segments := by
  induction segments generalizing before with
  | nil => rfl
  | cons bvec rest ih =>
      rw [List.flatMap_cons, List.length_append] at short
      have bytes : memory.read before bvec.data.length =
          other.read (base + before) bvec.data.length := by
        apply List.map_congr_left
        intro index inRange
        have inside := List.mem_range.mp inRange
        have here := congrArg (fun page : PageBuffer => page.toList[before + index]?) same
        simp only [toList_readPage, ByteMemory.read, List.getElem?_map] at here
        rw [List.getElem?_range (by omega)] at here
        simpa [Nat.add_assoc] using here
      rw [unstageSegments, unstageSegments, bytes, ih (by omega), Nat.add_assoc]

end XArray

/-- The page allocator and `xa_store` never fail. -/
def Plentiful (fate : ℕ → MemoryFate) : Prop :=
  ∀ segment, (fate segment).page.isSome ∧ (fate segment).inserted = true

theorem toList_readPage_write (memory : ByteMemory) (address : ℕ) {bytes : List UInt8}
    (whole : bytes.length = PAGE_SIZE) :
    (readPage (memory.write address bytes) address).toList = bytes := by
  rw [toList_readPage, ← whole, ByteMemory.read_write_self]

namespace Request.Paged

variable {rq : Request}

/-- The xarray has the bytes of a WRITE as the page of its index. -/
theorem xarrayWrite (paged : rq.Paged) (isWrite : rq.dir = .write) {fate : ℕ → MemoryFate}
    (plentiful : Plentiful fate) (store : XArray) :
    ∃ stored, Kmod.xarrayWrite fate store 0 rq.pos rq.segments =
        (true, update store rq.index (some stored)) ∧
      (readPage stored 0).toList = rq.bytes := by
  have whole := paged.covers isWrite
  have short := paged.short
  have packed := paged.packed
  have zero : rq.pos + UInt64.ofNat 0 = rq.pos := UInt64.add_zero _
  unfold Request.bytes at whole short ⊢
  cases found : store rq.index with
  | some stored =>
      refine ⟨_, ?_, toList_readPage_write stored 0 whole⟩
      have written := xarrayWrite_packed paged.aligned fate 0 found packed
        (show 0 * DUVM_SECTOR_SIZE ≤ 0 from Nat.le_refl _) (by omega)
      rwa [zero] at written
  | none =>
      cases segments : rq.segments with
      | nil =>
          rw [segments] at whole
          cases whole
      | cons bvec rest =>
          rw [segments] at packed short whole
          rcases packed with ⟨positive, isOffset, packed⟩
          rcases plentiful 0 with ⟨isSome, inserted⟩
          rcases Option.isSome_iff_exists.mp isSome with ⟨fresh, allocated⟩
          refine ⟨_, ?_, toList_readPage_write fresh 0 whole⟩
          have floor := Nat.div_mul_le_self bvec.data.length DUVM_SECTOR_SIZE
          rw [List.flatMap_cons, List.length_append] at short
          have unstored : store (pageIndex rq.pos) = none := found
          rw [Kmod.xarrayWrite]
          simp only [unstored, allocated, inserted, if_true, isOffset]
          rw [sectorsOf, xarrayWrite_packed paged.aligned fate 1 (Function.update_self _ _ _) packed
            (by omega) (by omega), Nat.zero_add, ← Nat.zero_add bvec.data.length,
            ByteMemory.write_append, Function.update_idem, List.flatMap_cons]
          rfl

/-- A READ of a page which the xarray has. -/
theorem xarrayRead (paged : rq.Paged) {store : XArray} {stored memory : ByteMemory} {base : ℕ}
    (found : store rq.index = some stored) (same : readPage stored 0 = readPage memory base) :
    Kmod.xarrayRead store rq.pos rq.segments = unstageSegments memory base rq.segments := by
  have zero : rq.pos + UInt64.ofNat 0 = rq.pos := UInt64.add_zero _
  have short : 0 + (rq.segments.flatMap BioVec.data).length ≤ PAGE_SIZE := by
    rw [Nat.zero_add]
    exact paged.short
  have read := xarrayRead_packed paged.aligned found paged.packed
    (show 0 * DUVM_SECTOR_SIZE ≤ 0 from Nat.le_refl _) short
  rw [zero] at read
  rw [read]
  exact unstageSegments_congr same short

end Request.Paged

/-- A request with the tag under which it is issued and the fates of its allocations. -/
structure Issue where
  tag : ℕ
  rq : Request
  fate : ℕ → MemoryFate

/-- The request goes through the ring before the next one is issued. -/
def Issue.viaRing (issue : Issue) : List (Action Bool) :=
  [.queueRq issue.tag issue.rq issue.fate, .pollOnce true, .harvest]

/-- The request is served at once. -/
def Issue.atOnce (issue : Issue) : Action Bool := .queueRq issue.tag issue.rq issue.fate

namespace World

abbrev Plain := World (UInt64 → Option PageBuffer)

/-- The daemon is connected, and nothing is in flight. -/
structure Quiet (world : Plain) (entries : ℕ) : Prop where
  online : world.dev.ring.daemonConnected = true
  depth : world.dev.queueDepth = entries
  capacity : world.dev.ring.capacity = entries
  slots : world.dev.ring.stagingPages = entries
  bitmap : world.dev.ring.stagingBitmap = fun _ => false
  requests : world.dev.ring.reqReadIdx = world.dev.ring.reqWriteIdx
  completions : world.dev.ring.compReadIdx = world.dev.ring.compWriteIdx
  writing : world.dev.ring.reqWriteIdx < entries
  answering : world.dev.ring.compWriteIdx < entries
  tags : ∀ tag, (world.dev.tags tag).state ≠ .started

theorem duvmAllocStagingSlot_of_empty {ring : DuvmRing}
    (empty : ring.stagingBitmap = fun _ => false) (roomy : 0 < ring.stagingPages) :
    duvmAllocStagingSlot ring =
      (some 0, { ring with stagingBitmap := update ring.stagingBitmap 0 true }) := by
  have first : findFirstZeroBit ring.stagingBitmap ring.stagingPages = 0 := by
    rcases Nat.exists_eq_succ_of_ne_zero roomy.ne' with ⟨rest, isSucc⟩
    simp [findFirstZeroBit, empty, isSucc, List.range_succ_eq_map]
  simp [duvmAllocStagingSlot, first, roomy.ne']

variable {world : Plain} {entries order tag : ℕ} {rq : Request} {fate : ℕ → MemoryFate}

/-- In a ring of two cells or more an index moves on. -/
theorem advance_ne (isPower : entries = 2 ^ order) (wide : 2 ≤ entries) {index : ℕ}
    (inRing : index < entries) :
    RingBuffer.advance entries index ≠ index ∧ RingBuffer.advance entries index < entries := by
  have moved : RingBuffer.advance entries index = (index + 1) % entries := by
    rw [isPower] at inRing ⊢
    have advanced := @RingBuffer.advance_mod order index
    rwa [Nat.mod_eq_of_lt inRing] at advanced
  rw [moved]
  refine ⟨?_, Nat.mod_lt _ (by omega)⟩
  intro same
  rcases Nat.lt_or_ge (index + 1) entries with inside | outside
  · rw [Nat.mod_eq_of_lt inside] at same
    omega
  · have last : index + 1 = entries := by omega
    rw [last, Nat.mod_self] at same
    omega

theorem Quiet.queueRq (quiet : world.Quiet entries) (isPower : entries = 2 ^ order)
    (wide : 2 ≤ entries) (inRange : tag < entries) :
    step plainModel world (.queueRq tag rq fate) = some (world.accepted ⟨tag, rq, 0⟩) := by
  have allocated := duvmAllocStagingSlot_of_empty quiet.bitmap (by rw [quiet.slots]; omega)
  have inDepth : tag < world.dev.queueDepth := quiet.depth ▸ inRange
  rw [step, if_pos ⟨inDepth, quiet.tags tag⟩, queued_of_accepted quiet.online allocated]
  rw [quiet.capacity, quiet.requests]
  exact (advance_ne isPower wide quiet.writing).1

/-- A WRITE is stored by the daemon. -/
theorem Quiet.pollOnce_write (quiet : world.Quiet entries) (isPower : entries = 2 ^ order)
    (wide : 2 ≤ entries) (isWrite : rq.dir = .write) :
    step plainModel (world.accepted ⟨tag, rq, 0⟩) (.pollOnce true) =
      some ((world.accepted ⟨tag, rq, 0⟩).served
        ⟨rq.toRing tag 0, some (readPage (rq.stage world.dev.ring.staging 0) 0), none, 0⟩
        (update world.engine rq.index
          (some (readPage (rq.stage world.dev.ring.staging 0) 0)))) := by
  have pending := (advance_ne isPower wide quiet.writing).1
  simp [step, accepted, quiet.online, Daemon.pollOnce, quiet.capacity, quiet.requests,
    pending.symm, Submission.ring, Request.toRing, isWrite, plainModel, served, Execution.fill]

/-- A READ of a page which the daemon has. -/
theorem Quiet.pollOnce_read (quiet : world.Quiet entries) (isPower : entries = 2 ^ order)
    (wide : 2 ≤ entries) (isRead : rq.dir = .read) {page : PageBuffer}
    (found : world.engine rq.index = some page) :
    step plainModel (world.accepted ⟨tag, rq, 0⟩) (.pollOnce true) =
      some ((world.accepted ⟨tag, rq, 0⟩).served ⟨rq.toRing tag 0, none, some page, 0⟩
        world.engine) := by
  have pending := (advance_ne isPower wide quiet.writing).1
  simp [step, accepted, quiet.online, Daemon.pollOnce, quiet.capacity, quiet.requests,
    pending.symm, Submission.ring, Request.toRing, isRead, plainModel, found, served,
    Execution.fill]

/-- The harvester ends the request which was served. -/
theorem Quiet.harvest (quiet : world.Quiet entries) (isPower : entries = 2 ^ order)
    (wide : 2 ≤ entries) (inRange : tag < entries) {execution : Execution}
    (isRequest : execution.request = rq.toRing tag 0) (succeeded : execution.result = 0)
    (engine : UInt64 → Option PageBuffer) :
    step plainModel ((world.accepted ⟨tag, rq, 0⟩).served execution engine) .harvest =
      some (((world.accepted ⟨tag, rq, 0⟩).served execution engine).answered tag 0
        (((world.accepted ⟨tag, rq, 0⟩).served execution engine).answer rq
          ⟨tag + 1, 0, rq.dir = .read⟩ 0)) := by
  have pending := (advance_ne isPower wide quiet.answering).1
  have isTag : tagOfSeq entries (tag + 1) = some tag :=
    tagOfSeq_eq_some_iff.mpr ⟨rfl, inRange⟩
  simp [step, accepted, served, quiet.online, duvmCompletionThread, duvmRingPollCompletion,
    publish, quiet.capacity, quiet.completions, pending.symm, isRequest, Request.toRing,
    quiet.depth, isTag, Submission.entry, succeeded, harvested, answered, answer,
    duvmFreeStagingSlot]

/-- Nothing is left in flight. -/
theorem Quiet.ended (quiet : world.Quiet entries) (isPower : entries = 2 ^ order)
    (wide : 2 ≤ entries) (tag : ℕ) (rq : Request) (execution : Execution)
    (engine : UInt64 → Option PageBuffer) (completed : Completed) :
    (((world.accepted ⟨tag, rq, 0⟩).served execution engine).answered tag 0 completed).Quiet
      entries where
  online := quiet.online
  depth := quiet.depth
  capacity := quiet.capacity
  slots := quiet.slots
  bitmap := by
    change update (update world.dev.ring.stagingBitmap 0 true) 0 false = fun _ => false
    rw [quiet.bitmap, Function.update_idem]
    exact Function.update_eq_self_iff.mpr rfl
  requests := congrArg (RingBuffer.advance _) quiet.requests
  completions := congrArg (RingBuffer.advance _) quiet.completions
  writing := by
    change RingBuffer.advance world.dev.ring.capacity world.dev.ring.reqWriteIdx < entries
    rw [quiet.capacity]
    exact (advance_ne isPower wide quiet.writing).2
  answering := by
    change RingBuffer.advance world.dev.ring.capacity world.dev.ring.compWriteIdx < entries
    rw [quiet.capacity]
    exact (advance_ne isPower wide quiet.answering).2
  tags other := by
    by_cases same : other = tag
    · subst same
      simp [answered, blkMqEndRequest]
    · simp only [answered, blkMqEndRequest, Function.update_of_ne same]
      simp only [served, accepted, Function.update_of_ne same]
      exact quiet.tags other

/-- The request which comes back through the ring. -/
theorem Quiet.viaRing (quiet : world.Quiet entries) (isPower : entries = 2 ^ order)
    (wide : 2 ≤ entries) (inRange : tag < entries) {execution : Execution}
    {engine : UInt64 → Option PageBuffer}
    (polled : step plainModel (world.accepted ⟨tag, rq, 0⟩) (.pollOnce true) =
      some ((world.accepted ⟨tag, rq, 0⟩).served execution engine))
    (isRequest : execution.request = rq.toRing tag 0) (succeeded : execution.result = 0) :
    ∃ next, Transition.run (step plainModel) world (Issue.viaRing ⟨tag, rq, fate⟩) = some next ∧
      next.Quiet entries ∧ next.engine = engine ∧
      next.ended = world.ended ++ [⟨.ring, tag, ⟨if rq.dir = .read then
        rq.unstage (execution.fill (rq.stage world.dev.ring.staging 0)) 0 else rq, .ok⟩⟩] := by
  refine ⟨_, ?_, quiet.ended isPower wide tag rq execution engine
    (((world.accepted ⟨tag, rq, 0⟩).served execution engine).answer rq
      ⟨tag + 1, 0, rq.dir = .read⟩ 0), rfl, ?_⟩
  · rw [Issue.viaRing, Transition.run_cons_of_step _ (quiet.queueRq isPower wide inRange),
      Transition.run_cons_of_step _ polled, Transition.run_cons_of_step _
        (quiet.harvest isPower wide inRange isRequest succeeded engine), Transition.run_nil]
  · simp [answered, answer, served, accepted, publish]

/-- A request which is ended at once is not in flight. -/
theorem idle_endedLocally {direct : Plain} (idle : ∀ tag, (direct.dev.tags tag).state ≠ .started)
    {completed : Completed} {store : XArray} (other : ℕ) :
    ((direct.endedLocally tag completed store).dev.tags other).state ≠ .started := by
  by_cases same : other = tag
  · subst same
    simp [World.endedLocally, blkMqEndRequest]
  · simp only [World.endedLocally, blkMqEndRequest, Function.update_of_ne same]
    exact idle other

/-- Two devices which have served the same requests, one through the ring and one by itself: the
daemon has the pages which the xarray has. -/
structure Mirrors (ring direct : Plain) (entries : ℕ) : Prop where
  quiet : ring.Quiet entries
  offline : direct.dev.ring.daemonConnected = false
  depth : direct.dev.queueDepth = entries
  tags : ∀ tag, (direct.dev.tags tag).state ≠ .started
  pages : ∀ index, (direct.dev.pageStore index).map (readPage · 0) = ring.engine index
  ended : ring.ended.map Ending.completed = direct.ended.map Ending.completed

namespace Mirrors

variable {ring direct : Plain}

theorem endedLocally (mirrors : ring.Mirrors direct entries) {completed : Completed}
    {store : XArray} {next : Plain} (quiet : next.Quiet entries)
    (pages : ∀ index, (store index).map (readPage · 0) = next.engine index)
    (ended : next.ended = ring.ended ++ [⟨.ring, tag, completed⟩]) :
    next.Mirrors (direct.endedLocally tag completed store) entries where
  quiet := quiet
  offline := mirrors.offline
  depth := mirrors.depth
  tags := idle_endedLocally mirrors.tags
  pages := pages
  ended := by
    rw [ended, World.endedLocally, List.map_append, List.map_append, mirrors.ended]
    rfl

theorem write (mirrors : ring.Mirrors direct entries) (isPower : entries = 2 ^ order)
    (wide : 2 ≤ entries) (inRange : tag < entries) (paged : rq.Paged) (isWrite : rq.dir = .write)
    (plentiful : Plentiful fate) :
    ∃ next after,
      Transition.run (step plainModel) ring (Issue.viaRing ⟨tag, rq, fate⟩) = some next ∧
      step plainModel direct (.queueRq tag rq fate) = some after ∧ next.Mirrors after entries ∧
      ∃ page, next.engine = update ring.engine rq.index (some page) := by
  rcases mirrors.quiet.viaRing isPower wide inRange
    (mirrors.quiet.pollOnce_write isPower wide isWrite) rfl rfl with
    ⟨next, served, quiet, engine, ended⟩
  rcases paged.xarrayWrite isWrite plentiful direct.dev.pageStore with ⟨stored, written, bytes⟩
  have inDepth : tag < direct.dev.queueDepth := mirrors.depth ▸ inRange
  have atOnce : step plainModel direct (.queueRq tag rq fate) =
      some (direct.endedLocally tag ⟨rq, .ok⟩
        (update direct.dev.pageStore rq.index (some stored))) := by
    rw [step, if_pos ⟨inDepth, mirrors.tags tag⟩, queued_of_write mirrors.offline isWrite written]
    rfl
  refine ⟨next, _, served, atOnce, mirrors.endedLocally quiet ?_ ?_, _, engine⟩
  · intro index
    have samePage : readPage stored 0 = readPage (rq.stage ring.dev.ring.staging 0) 0 := by
      apply Vector.toList_inj.mp
      rw [bytes, Request.stage_of_write isWrite, Nat.zero_mul,
        toList_readPage_write _ 0 (paged.covers isWrite)]
    rw [engine, Function.update_apply, Function.update_apply]
    split
    · rw [Option.map_some, samePage]
    · exact mirrors.pages index
  · rw [ended, if_neg (by simp [isWrite])]

theorem read (mirrors : ring.Mirrors direct entries) (isPower : entries = 2 ^ order)
    (wide : 2 ≤ entries) (inRange : tag < entries) (paged : rq.Paged) (isRead : rq.dir = .read)
    {page : PageBuffer} (found : ring.engine rq.index = some page) :
    ∃ next after,
      Transition.run (step plainModel) ring (Issue.viaRing ⟨tag, rq, fate⟩) = some next ∧
      step plainModel direct (.queueRq tag rq fate) = some after ∧ next.Mirrors after entries ∧
      next.engine = ring.engine := by
  rcases mirrors.quiet.viaRing isPower wide inRange
    (mirrors.quiet.pollOnce_read isPower wide isRead found) rfl rfl with
    ⟨next, served, quiet, engine, ended⟩
  have known := (mirrors.pages rq.index).trans found
  rcases Option.map_eq_some_iff.mp known with ⟨stored, isStored, isPage⟩
  have inDepth : tag < direct.dev.queueDepth := mirrors.depth ▸ inRange
  have atOnce : step plainModel direct (.queueRq tag rq fate) =
      some (direct.endedLocally tag
        ⟨{ rq with segments := xarrayRead direct.dev.pageStore rq.pos rq.segments }, .ok⟩
        direct.dev.pageStore) := by
    rw [step, if_pos ⟨inDepth, mirrors.tags tag⟩, queued_of_read mirrors.offline isRead]
  refine ⟨next, _, served, atOnce, mirrors.endedLocally quiet ?_ ?_, engine⟩
  · rw [engine]
    exact mirrors.pages
  · rw [ended, if_pos isRead, Request.unstage, paged.xarrayRead isStored]
    rw [isPage]
    exact (readPage_write_self _ _ page).symm

end Mirrors

end World

/-- Requests for whole pages, with READs only of pages written before, while memory does not run
out. -/
structure Regular (issues : List Issue) (entries : ℕ) : Prop where
  tags : ∀ issue ∈ issues, issue.tag < entries
  paged : ∀ issue ∈ issues, issue.rq.Paged
  plentiful : ∀ issue ∈ issues, Plentiful issue.fate
  written : ∀ before issue after, issues = before ++ issue :: after → issue.rq.dir = .read →
    ∃ earlier ∈ before, earlier.rq.dir = .write ∧ earlier.rq.index = issue.rq.index

variable {issues : List Issue}

theorem Regular.init {last : Issue} {entries : ℕ} (regular : Regular (issues ++ [last]) entries) :
    Regular issues entries where
  tags issue listed := regular.tags issue (List.mem_append_left _ listed)
  paged issue listed := regular.paged issue (List.mem_append_left _ listed)
  plentiful issue listed := regular.plentiful issue (List.mem_append_left _ listed)
  written before issue after split isRead := by
    apply regular.written before issue (after ++ [last]) _ isRead
    rw [split, List.append_assoc, List.cons_append]

namespace World

variable {ring direct : Plain} {entries order : ℕ} {issues : List Issue}

/-- One request; the daemon has the page of a WRITE afterwards. -/
theorem Mirrors.issue (mirrors : ring.Mirrors direct entries) (isPower : entries = 2 ^ order)
    (wide : 2 ≤ entries) {issue : Issue} (inRange : issue.tag < entries) (paged : issue.rq.Paged)
    (plentiful : Plentiful issue.fate)
    (known : issue.rq.dir = .read → (ring.engine issue.rq.index).isSome) :
    ∃ next after, Transition.run (step plainModel) ring issue.viaRing = some next ∧
      step plainModel direct issue.atOnce = some after ∧ next.Mirrors after entries ∧
      (∀ index, (ring.engine index).isSome → (next.engine index).isSome) ∧
      (issue.rq.dir = .write → (next.engine issue.rq.index).isSome) := by
  cases direction : issue.rq.dir with
  | write =>
      rcases mirrors.write isPower wide inRange paged direction plentiful with
        ⟨next, after, served, atOnce, mirrored, page, engine⟩
      refine ⟨next, after, served, atOnce, mirrored, ?_, ?_⟩
      · intro index isSome
        rw [engine, Function.update_apply]
        split
        · rfl
        · exact isSome
      · intro _
        rw [engine, Function.update_self]
        rfl
  | read =>
      rcases Option.isSome_iff_exists.mp (known direction) with ⟨page, found⟩
      rcases mirrors.read isPower wide inRange paged direction found with
        ⟨next, after, served, atOnce, mirrored, engine⟩
      refine ⟨next, after, served, atOnce, mirrored, ?_, nofun⟩
      rw [engine]
      exact fun _ isSome => isSome

/-- The devices go on mirroring each other, and the daemon has every page written. -/
theorem Mirrors.run (mirrors : ring.Mirrors direct entries) (isPower : entries = 2 ^ order)
    (wide : 2 ≤ entries) (regular : Regular issues entries) :
    ∃ next after,
      Transition.run (step plainModel) ring (issues.flatMap Issue.viaRing) = some next ∧
      Transition.run (step plainModel) direct (issues.map Issue.atOnce) = some after ∧
      next.Mirrors after entries ∧
      ∀ earlier ∈ issues, earlier.rq.dir = .write → (next.engine earlier.rq.index).isSome := by
  induction issues using List.reverseRecOn with
  | nil => exact ⟨ring, direct, rfl, rfl, mirrors, nofun⟩
  | append_singleton issues last ih =>
      rcases ih regular.init with ⟨served, ended, ranRing, ranDirect, mirrored, known⟩
      have listed : last ∈ issues ++ [last] := List.mem_append_right _ (List.mem_singleton_self _)
      have written : last.rq.dir = .read → (served.engine last.rq.index).isSome := by
        intro isRead
        rcases regular.written issues last [] rfl isRead with
          ⟨earlier, isEarlier, isWrite, sameIndex⟩
        rw [← sameIndex]
        exact known earlier isEarlier isWrite
      rcases mirrored.issue isPower wide (regular.tags last listed) (regular.paged last listed)
        (regular.plentiful last listed) written with
        ⟨next, after, viaRing, atOnce, mirrors, kept, added⟩
      refine ⟨next, after, ?_, ?_, mirrors, ?_⟩
      · rw [List.flatMap_append, Transition.run_append, ranRing, List.flatMap_singleton]
        exact viaRing
      · rw [List.map_append, Transition.run_append, ranDirect, List.map_singleton]
        exact Transition.run_cons_of_step _ atOnce
      · intro earlier isEarlier isWrite
        rcases List.mem_append.mp isEarlier with old | new
        · exact kept _ (known earlier old isWrite)
        · rw [List.mem_singleton.mp new] at isWrite ⊢
          exact added isWrite

theorem mirrors_start {ringEntries : ℕ} {dev : DuvmDevice}
    (initialised : duvmInit ringEntries = .ok dev) (wide : 2 ≤ ringEntries) :
    (∃ order, ringEntries = 2 ^ order) ∧
      ((start dev fun _ => none).connected true).Mirrors (start dev fun _ => none)
        ringEntries := by
  rcases duvmInit_eq_ok initialised with ⟨isPower, rfl⟩
  have positive : 0 < ringEntries := Nat.lt_of_lt_of_le Nat.zero_lt_two wide
  exact ⟨isPower, ⟨rfl, rfl, rfl, rfl, rfl, rfl, rfl, positive, positive, nofun⟩, rfl, rfl, nofun,
    fun _ => rfl, rfl⟩

end World

open World in
/-- Regular requests come back with the same status and the same bytes on both paths. -/
theorem completed_ring_eq_completed_xarray {ringEntries : ℕ} {dev : DuvmDevice}
    (initialised : duvmInit ringEntries = .ok dev) (wide : 2 ≤ ringEntries)
    (regular : Regular issues ringEntries) :
    ∃ ring direct,
      Transition.run (step plainModel) (start dev fun _ => none)
        (.ctlOpen true :: issues.flatMap Issue.viaRing) = some ring ∧
      Transition.run (step plainModel) (start dev fun _ => none) (issues.map Issue.atOnce) =
        some direct ∧
      ring.ended.map Ending.completed = direct.ended.map Ending.completed := by
  rcases mirrors_start initialised wide with ⟨⟨order, isPower⟩, mirrors⟩
  rcases mirrors.run isPower wide regular with ⟨ring, direct, ranRing, ranDirect, mirrored, -⟩
  have offline : dev.ring.daemonConnected = false := mirrors.offline
  have opened : step plainModel (start dev fun _ => none) (.ctlOpen true) =
      some ((start dev fun _ => none).connected true) := by
    simp [step, duvmCtlOpen, start, offline, connected]
  exact ⟨ring, direct, (Transition.run_cons_of_step _ opened).trans ranRing, ranDirect,
    mirrored.ended⟩

/-- Memory which never runs out. -/
def freshPages : ℕ → MemoryFate := fun _ => ⟨some fun _ => 0, true⟩

/-- A page is written and read back. -/
def writeAndRead : List Issue :=
  [⟨0, .ofPage 3 .write (.filled 1), freshPages⟩, ⟨1, .ofPage 3 .read .zero, freshPages⟩]

theorem Request.paged_ofPage (dir : Direction) (page : PageBuffer) :
    (Request.ofPage 3 dir page).Paged where
  aligned := show (3 * UInt64.ofNat DUVM_PAGE_SECTORS) % UInt64.ofNat DUVM_PAGE_SECTORS = 0 by
    decide
  packed := ⟨by rw [PageBuffer.length_toList]; decide, rfl, trivial⟩
  short := by rw [Request.bytes_ofPage, PageBuffer.length_toList]
  covers _ := by rw [Request.bytes_ofPage, PageBuffer.length_toList]

theorem regular_writeAndRead : Regular writeAndRead 2 where
  tags := by decide
  paged issue listed := by
    simp only [writeAndRead, List.mem_cons, List.not_mem_nil, or_false] at listed
    rcases listed with rfl | rfl
    · exact Request.paged_ofPage _ _
    · exact Request.paged_ofPage _ _
  plentiful issue listed := by
    simp only [writeAndRead, List.mem_cons, List.not_mem_nil, or_false] at listed
    rcases listed with rfl | rfl
    · exact fun _ => ⟨rfl, rfl⟩
    · exact fun _ => ⟨rfl, rfl⟩
  written before issue after split isRead := by
    rcases before with _ | ⟨first, rest⟩
    · cases split
      cases isRead
    · rcases List.cons.inj split with ⟨rfl, remainder⟩
      refine ⟨_, List.mem_cons_self, rfl, ?_⟩
      rcases rest with _ | ⟨second, others⟩
      · cases remainder
        rfl
      · rcases List.cons.inj remainder with ⟨-, impossible⟩
        simp at impossible

theorem writeAndRead_agrees :
    ∃ dev ring direct, duvmInit 2 = .ok dev ∧
      Transition.run (World.step plainModel) (.start dev fun _ => none)
        (.ctlOpen true :: writeAndRead.flatMap Issue.viaRing) = some ring ∧
      Transition.run (World.step plainModel) (.start dev fun _ => none)
        (writeAndRead.map Issue.atOnce) = some direct ∧
      ring.ended.map Ending.completed = direct.ended.map Ending.completed := by
  have initialised : ∃ dev, duvmInit 2 = .ok dev := ⟨_, rfl⟩
  rcases initialised with ⟨dev, initialised⟩
  rcases completed_ring_eq_completed_xarray initialised (Nat.le_refl 2) regular_writeAndRead with
    ⟨ring, direct, ranRing, ranDirect, same⟩
  exact ⟨dev, ring, direct, initialised, ranRing, ranDirect, same⟩

theorem xarrayWrite_fst {fate : ℕ → MemoryFate} (plentiful : Plentiful fate) (store : XArray)
    (segment : ℕ) (sector : UInt64) (segments : List BioVec) :
    (xarrayWrite fate store segment sector segments).1 = true := by
  induction segments generalizing store segment sector with
  | nil => rfl
  | cons bvec rest ih =>
      rcases Option.isSome_iff_exists.mp (plentiful segment).1 with ⟨fresh, allocated⟩
      rw [xarrayWrite]
      split
      · exact ih _ _ _
      · simp only [allocated]
        exact ih _ _ _

/-- While memory does not run out, every request succeeds on the xarray path. -/
theorem World.statuses_of_offline {direct : Plain}
    (offline : direct.dev.ring.daemonConnected = false)
    (idle : ∀ tag, (direct.dev.tags tag).state ≠ .started)
    (tags : ∀ issue ∈ issues, issue.tag < direct.dev.queueDepth)
    (plentiful : ∀ issue ∈ issues, Plentiful issue.fate) :
    ∃ after, Transition.run (step plainModel) direct (issues.map Issue.atOnce) = some after ∧
      after.ended.map (·.completed.status) =
        direct.ended.map (·.completed.status) ++ List.replicate issues.length .ok := by
  induction issues generalizing direct with
  | nil => exact ⟨direct, rfl, (List.append_nil _).symm⟩
  | cons issue rest ih =>
      have served : ∃ completed store, step plainModel direct issue.atOnce =
          some (direct.endedLocally issue.tag completed store) ∧ completed.status = .ok := by
        rw [Issue.atOnce, step, if_pos ⟨tags issue List.mem_cons_self, idle issue.tag⟩]
        cases direction : issue.rq.dir with
        | read =>
            rw [queued_of_read offline direction]
            exact ⟨_, _, rfl, rfl⟩
        | write =>
            have allocated := xarrayWrite_fst (plentiful issue List.mem_cons_self)
              direct.dev.pageStore 0 issue.rq.pos issue.rq.segments
            rw [queued_of_write offline direction (Prod.mk.eta).symm, allocated]
            exact ⟨_, _, rfl, rfl⟩
      rcases served with ⟨completed, store, stepped, isOk⟩
      have stillOffline :
          (direct.endedLocally issue.tag completed store).dev.ring.daemonConnected = false :=
        offline
      rcases ih stillOffline (idle_endedLocally idle)
        (fun issue listed => tags issue (List.mem_cons_of_mem _ listed))
        (fun issue listed => plentiful issue (List.mem_cons_of_mem _ listed)) with
        ⟨after, ran, statuses⟩
      refine ⟨after, (Transition.run_cons_of_step _ stepped).trans ran, ?_⟩
      rw [statuses, endedLocally, List.map_append, List.append_assoc]
      simp [isOk, List.replicate_succ]

/-- A request for a number of pages in a row, each in a memory page. -/
def Request.ofPages (pos : UInt64) (dir : Direction) (pages : List PageBuffer) : Request :=
  ⟨pos, dir, pages.map fun page => ⟨0, page.toList⟩⟩

theorem Request.admitted_ofPages (pos : UInt64) (dir : Direction) {pages : List PageBuffer}
    (few : pages.length ≤ 32) : (Request.ofPages pos dir pages).Admitted := by
  have length : (Request.ofPages pos dir pages).bytes.length = pages.length * PAGE_SIZE := by
    simp [bytes, ofPages, List.flatMap_map, List.length_flatMap]
  refine ⟨?_, ?_, ?_⟩
  · rw [length]
    exact Dvd.dvd.mul_left (by decide) _
  · rw [length]
    exact Nat.mul_le_mul_right _ few
  · intro bvec listed
    rcases List.mem_map.mp listed with ⟨page, -, rfl⟩
    rw [PageBuffer.length_toList]
    exact ⟨by decide, Nat.le_of_eq (Nat.zero_add _)⟩

/-- Two pages are written at once, and the second one is read. -/
def writeTwoReadSecond : List Issue :=
  [⟨0, .ofPages 0 .write [.filled 1, .filled 2], freshPages⟩,
    ⟨1, .ofPages 8 .read [.zero], freshPages⟩]

theorem admitted_writeTwoReadSecond : ∀ issue ∈ writeTwoReadSecond, issue.rq.Admitted := by
  intro issue listed
  simp only [writeTwoReadSecond, List.mem_cons, List.not_mem_nil, or_false] at listed
  rcases listed with rfl | rfl
  · exact Request.admitted_ofPages _ _ (by decide)
  · exact Request.admitted_ofPages _ _ (by decide)

/-- The daemon is given the first page only. -/
theorem second_page_missing_on_ring :
    ∃ dev ring direct, duvmInit 2 = .ok dev ∧
      (∀ issue ∈ writeTwoReadSecond, issue.rq.Admitted) ∧
      Transition.run (World.step plainModel) (.start dev fun _ => none)
        (.ctlOpen true :: writeTwoReadSecond.flatMap Issue.viaRing) = some ring ∧
      Transition.run (World.step plainModel) (.start dev fun _ => none)
        (writeTwoReadSecond.map Issue.atOnce) = some direct ∧
      ring.ended.map (·.completed.status) = [.ok, .ioerr] ∧
      direct.ended.map (·.completed.status) = [.ok, .ok] := by
  have viaRing : ∃ dev ring, duvmInit 2 = .ok dev ∧
      Transition.run (World.step plainModel) (.start dev fun _ => none)
        (.ctlOpen true :: writeTwoReadSecond.flatMap Issue.viaRing) = some ring ∧
      ring.ended.map (·.completed.status) = [.ok, .ioerr] ∧
      dev.ring.daemonConnected = false ∧ dev.queueDepth = 2 ∧
      ∀ tag, (dev.tags tag).state = .idle :=
    ⟨_, _, rfl, rfl, rfl, rfl, rfl, fun _ => rfl⟩
  rcases viaRing with ⟨dev, ring, initialised, ran, statuses, offline, depth, idle⟩
  have atOnce : ∃ after, Transition.run (World.step plainModel) (.start dev fun _ => none)
      (writeTwoReadSecond.map Issue.atOnce) = some after ∧ _ :=
    World.statuses_of_offline offline (fun tag => by rw [World.start, idle]; nofun)
      (by rw [World.start, depth]; decide) (by simp [writeTwoReadSecond, Plentiful, freshPages])
  rcases atOnce with ⟨direct, ranDirect, allOk⟩
  exact ⟨dev, ring, direct, initialised, admitted_writeTwoReadSecond, ran, ranDirect, statuses,
    allOk⟩

end Duvm.Kmod
