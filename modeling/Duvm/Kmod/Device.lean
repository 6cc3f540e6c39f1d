import Duvm.Kmod.Ring

/-!
# The block device of the kernel module

The entry points of `duvm-kmod/src/main.c`: `duvm_queue_rq` with its
asynchronous path through the ring and its synchronous path through the xarray,
one iteration of the completion harvester, the timeout handler, and opening and
releasing `/dev/duvm_ctl`. A segment of a request is modelled by its offset in
its memory page and by the bytes it covers, so `bv_len` is their number.

What the block layer keeps is the table of the last request issued under each
tag, with the private command data which lives in the same memory and therefore
survives from one request to the next. The page allocator and `xa_store` may
fail; their outcomes are inputs, one `MemoryFate` for each segment.
-/

namespace Duvm.Kmod

open Function (update)

def DUVM_SECTOR_SIZE : ℕ := 512

def DUVM_PAGE_SECTORS : ℕ := PAGE_SIZE / DUVM_SECTOR_SIZE

/-- A segment: `data` are the `bv_len` bytes at `bv_page + bv_offset`. -/
structure BioVec where
  bvOffset : ℕ
  data : List UInt8
deriving DecidableEq

inductive Direction where
  | read
  | write
deriving DecidableEq, Repr

/-- A block request: start sector, direction and segments. -/
structure Request where
  pos : UInt64
  dir : Direction
  segments : List BioVec
deriving DecidableEq

/-- The bytes which the segments of a request cover, in order. -/
def Request.bytes (rq : Request) : List UInt8 := rq.segments.flatMap BioVec.data

/-- The request for one page, as the swap layer issues it. -/
def Request.ofPage (index : UInt64) (dir : Direction) (page : PageBuffer) : Request :=
  ⟨index * UInt64.ofNat DUVM_PAGE_SECTORS, dir, [⟨0, page.toList⟩]⟩

inductive BlkStatus where
  | ok
  | resource
  | ioerr
deriving DecidableEq, Repr

/-- Per-request command data, stored in the blk-mq PDU. -/
structure DuvmCmd where
  seq : ℕ
  stagingSlot : ℕ
  isRead : Bool
deriving DecidableEq, Repr

inductive RqState where
  | idle
  | started
  | ended
deriving DecidableEq, Repr

/-- What is kept under a tag: the last request issued, its command data and its state. -/
structure TagEntry where
  rq : Option Request
  cmd : DuvmCmd
  state : RqState
deriving DecidableEq

/-- The pages of the fallback store, `duvm_page_store`. -/
abbrev XArray := UInt64 → Option ByteMemory

structure DuvmDevice where
  ring : DuvmRing
  queueDepth : ℕ
  tags : ℕ → TagEntry
  pageStore : XArray

/-- A request handed back by `blk_mq_end_request`, with the bytes it then holds. -/
structure Completed where
  rq : Request
  status : BlkStatus
deriving DecidableEq

/-- Outcomes of `alloc_page(GFP_NOIO)`, which does not clear the page, and of `xa_store`. -/
structure MemoryFate where
  page : Option ByteMemory
  inserted : Bool

/-- No page can be allocated. -/
def noMemory : ℕ → MemoryFate := fun _ => ⟨none, false⟩

def isPowerOf2 (n : ℕ) : Bool := n != 0 && n &&& (n - 1) == 0

/-- `duvm_init`: the ring, the staging area and the tag set have `ring_entries` entries each. -/
def duvmInit (ringEntries : ℕ) : Except Errno DuvmDevice :=
  if !isPowerOf2 ringEntries then .error .einval
  else
    .ok {
      ring := duvmRingInit ringEntries ringEntries
      queueDepth := ringEntries
      tags := fun _ => ⟨none, ⟨0, 0, false⟩, .idle⟩
      pageStore := fun _ => none }

theorem duvmInit_eq_ok {ringEntries : ℕ} {dev : DuvmDevice}
    (initialised : duvmInit ringEntries = .ok dev) :
    (∃ order, ringEntries = 2 ^ order) ∧
      dev = ⟨duvmRingInit ringEntries ringEntries, ringEntries,
        fun _ => ⟨none, ⟨0, 0, false⟩, .idle⟩, fun _ => none⟩ := by
  unfold duvmInit at initialised
  split at initialised
  · simp at initialised
  · next isPower =>
      simp only [isPowerOf2, Bool.not_eq_true', Bool.not_eq_false, Bool.and_eq_true, bne_iff_ne,
        beq_iff_eq] at isPower
      refine ⟨RingBuffer.exists_two_pow_of_and_pred isPower.1 isPower.2, ?_⟩
      exact (Except.ok.inj initialised).symm

/-- The page index of a sector. -/
def pageIndex (sector : UInt64) : UInt64 := sector / UInt64.ofNat DUVM_PAGE_SECTORS

/-- The sectors which a segment of the given length advances by. -/
def sectorsOf (length : ℕ) : UInt64 := UInt64.ofNat (length / DUVM_SECTOR_SIZE)

def Request.index (rq : Request) : UInt64 := pageIndex rq.pos

/-- Copies the segments of a WRITE into the staging buffer, one after the other. -/
def stageSegments (staging : ByteMemory) (address : ℕ) : List BioVec → ByteMemory
  | [] => staging
  | bvec :: rest =>
      stageSegments (staging.write address bvec.data) (address + bvec.data.length) rest

/-- Copies the staging buffer into the segments of a READ, one after the other. -/
def unstageSegments (staging : ByteMemory) (address : ℕ) : List BioVec → List BioVec
  | [] => []
  | bvec :: rest =>
      { bvec with data := staging.read address bvec.data.length } ::
        unstageSegments staging (address + bvec.data.length) rest

/-- The segment loop of a WRITE on the xarray path; `false` when no page could be allocated. -/
def xarrayWrite (fate : ℕ → MemoryFate) (store : XArray) (segment : ℕ) (sector : UInt64) :
    List BioVec → Bool × XArray
  | [] => (true, store)
  | bvec :: rest =>
      let next := sector + sectorsOf bvec.data.length
      let offset := bvec.bvOffset % PAGE_SIZE
      match store (pageIndex sector) with
      | some stored =>
          let store := update store (pageIndex sector) (some (stored.write offset bvec.data))
          xarrayWrite fate store (segment + 1) next rest
      | none =>
          match (fate segment).page with
          | none => (false, store)
          | some fresh =>
              let store :=
                if (fate segment).inserted then
                  update store (pageIndex sector) (some (fresh.write offset bvec.data))
                else store
              xarrayWrite fate store (segment + 1) next rest

/-- The segment loop of a READ on the xarray path. -/
def xarrayRead (store : XArray) (sector : UInt64) : List BioVec → List BioVec
  | [] => []
  | bvec :: rest =>
      let bytes :=
        match store (pageIndex sector) with
        | some stored => stored.read (bvec.bvOffset % PAGE_SIZE) bvec.data.length
        | none => List.replicate bvec.data.length 0
      { bvec with data := bytes } ::
        xarrayRead store (sector + sectorsOf bvec.data.length) rest

/-- `blk_mq_end_request`: the request under the tag is handed back. -/
def blkMqEndRequest (dev : DuvmDevice) (tag : ℕ) (rq : Request) : DuvmDevice :=
  { dev with
    tags := update dev.tags tag { dev.tags tag with rq := some rq, state := .ended } }

/-- What `duvm_queue_rq` comes back with: its status, and the request it ended, if any. -/
structure QueueResult where
  status : BlkStatus
  dev : DuvmDevice
  ended : Option Completed

/-- The ring request which `duvm_queue_rq` builds for a block request. -/
def Request.toRing (rq : Request) (tag slot : ℕ) : DuvmRequest where
  op := if rq.dir = .write then .store else .load
  seq := tag + 1
  offset := rq.index
  stagingSlot := slot

/-- The staging buffer once a WRITE has copied its page in; a READ copies nothing yet. -/
def Request.stage (rq : Request) (staging : ByteMemory) (slot : ℕ) : ByteMemory :=
  if rq.dir = .write then stageSegments staging (slot * PAGE_SIZE) rq.segments else staging

/-- The request once a READ has copied its page out of the staging buffer. -/
def Request.unstage (rq : Request) (staging : ByteMemory) (slot : ℕ) : Request :=
  { rq with segments := unstageSegments staging (slot * PAGE_SIZE) rq.segments }

/-- The asynchronous path of `duvm_queue_rq`. -/
def queueRqAsync (dev : DuvmDevice) (tag : ℕ) (rq : Request) : QueueResult :=
  match duvmAllocStagingSlot dev.ring with
  | (none, _) => ⟨.resource, dev, none⟩
  | (some slot, ring) =>
      let staged := { ring with staging := rq.stage ring.staging slot }
      let cmd : DuvmCmd := ⟨tag + 1, slot, rq.dir = .read⟩
      let started := update dev.tags tag ⟨some rq, cmd, .started⟩
      match duvmRingSubmit staged (rq.toRing tag slot) with
      | (.ok (), ring) => ⟨.ok, { dev with ring := ring, tags := started }, none⟩
      | (.error .eagain, ring) =>
          ⟨.resource, { dev with
            ring := duvmFreeStagingSlot ring slot
            tags := update dev.tags tag ⟨some rq, cmd, .idle⟩ }, none⟩
      | (.error _, ring) =>
          ⟨.ok, blkMqEndRequest { dev with
            ring := duvmFreeStagingSlot ring slot
            tags := started } tag rq, some ⟨rq, .ioerr⟩⟩

/-- The synchronous path of `duvm_queue_rq`. -/
def queueRqSync (dev : DuvmDevice) (fate : ℕ → MemoryFate) (tag : ℕ) (rq : Request) :
    QueueResult :=
  match rq.dir with
  | .write =>
      let (allocated, store) := xarrayWrite fate dev.pageStore 0 rq.pos rq.segments
      let status := if allocated then BlkStatus.ok else .resource
      ⟨.ok, { blkMqEndRequest dev tag rq with pageStore := store }, some ⟨rq, status⟩⟩
  | .read =>
      let filled := { rq with segments := xarrayRead dev.pageStore rq.pos rq.segments }
      ⟨.ok, blkMqEndRequest dev tag filled, some ⟨filled, .ok⟩⟩

def duvmQueueRq (dev : DuvmDevice) (fate : ℕ → MemoryFate) (tag : ℕ) (rq : Request) :
    QueueResult :=
  if dev.ring.daemonConnected then queueRqAsync dev tag rq else queueRqSync dev fate tag rq

/-- The tag of a completion, when its sequence number is in range. -/
def tagOfSeq (queueDepth seq : ℕ) : Option ℕ :=
  let tag : ℤ := (seq : ℤ) - 1
  if tag < 0 ∨ tag ≥ queueDepth then none else some tag.toNat

/-- What the harvester does with one completion: the tag and the request it ends, if any. -/
structure HarvestResult where
  dev : DuvmDevice
  ended : Option (ℕ × Completed)

/-- One completion taken by `duvm_completion_thread`; `none` when the ring looks empty. -/
def duvmCompletionThread (dev : DuvmDevice) : Option HarvestResult :=
  match duvmRingPollCompletion dev.ring with
  | (.error _, _) => none
  | (.ok comp, ring) =>
      let polled := { dev with ring := ring }
      match tagOfSeq dev.queueDepth comp.seq with
      | none => some ⟨polled, none⟩
      | some tag =>
          match (dev.tags tag).rq with
          | none => some ⟨polled, none⟩
          | some rq =>
              let cmd := (dev.tags tag).cmd
              let filled :=
                if cmd.isRead ∧ comp.result = 0 then rq.unstage ring.staging cmd.stagingSlot
                else rq
              let freed := { polled with ring := duvmFreeStagingSlot ring cmd.stagingSlot }
              let status := if comp.result = 0 then BlkStatus.ok else .ioerr
              some ⟨blkMqEndRequest freed tag filled, some (tag, ⟨filled, status⟩)⟩

/-- `duvm_timeout`: it frees the slot and answers `BLK_EH_DONE`, upon which the block
layer leaves the request as it is. -/
def duvmTimeout (dev : DuvmDevice) (tag : ℕ) : DuvmDevice :=
  { dev with ring := duvmFreeStagingSlot dev.ring (dev.tags tag).cmd.stagingSlot }

/-- `duvm_ctl_open`; the harvester thread may fail to start. -/
def duvmCtlOpen (dev : DuvmDevice) (threadStarts : Bool) : Except Errno Unit × DuvmDevice :=
  if dev.ring.daemonConnected then (.error .ebusy, dev)
  else if threadStarts then
    (.ok (), { dev with ring := { dev.ring with daemonConnected := true } })
  else (.error .enomem, dev)

/-- `duvm_ctl_release`, which also stops the harvester thread. -/
def duvmCtlRelease (dev : DuvmDevice) : DuvmDevice :=
  { dev with ring := { dev.ring with daemonConnected := false } }

theorem stageSegments_eq (staging : ByteMemory) (address : ℕ) (segments : List BioVec) :
    stageSegments staging address segments =
      staging.write address (segments.flatMap BioVec.data) := by
  induction segments generalizing staging address with
  | nil =>
      funext location
      simp [stageSegments, ByteMemory.write]
  | cons bvec rest ih =>
      rw [stageSegments, ih, ByteMemory.write_append, List.flatMap_cons]

theorem bytes_unstageSegments (staging : ByteMemory) (address : ℕ) (segments : List BioVec) :
    (unstageSegments staging address segments).flatMap BioVec.data =
      staging.read address (segments.flatMap BioVec.data).length := by
  induction segments generalizing address with
  | nil => rfl
  | cons bvec rest ih =>
      rw [unstageSegments, List.flatMap_cons, ih, List.flatMap_cons, List.length_append,
        ByteMemory.read_add]

theorem Request.bytes_ofPage (index : UInt64) (dir : Direction) (page : PageBuffer) :
    (Request.ofPage index dir page).bytes = page.toList := by
  simp [bytes, ofPage]

theorem Request.stage_of_write {rq : Request} (direction : rq.dir = .write)
    (staging : ByteMemory) (slot : ℕ) :
    rq.stage staging slot = staging.write (slot * PAGE_SIZE) rq.bytes := by
  rw [stage, if_pos direction, stageSegments_eq, bytes]

theorem Request.stage_of_read {rq : Request} (direction : rq.dir = .read)
    (staging : ByteMemory) (slot : ℕ) : rq.stage staging slot = staging := by
  rw [stage, if_neg (by simp [direction])]

theorem Request.bytes_unstage (rq : Request) (staging : ByteMemory) (slot : ℕ) :
    (rq.unstage staging slot).bytes = staging.read (slot * PAGE_SIZE) rq.bytes.length := by
  rw [unstage, bytes, bytes_unstageSegments, bytes]

end Duvm.Kmod
