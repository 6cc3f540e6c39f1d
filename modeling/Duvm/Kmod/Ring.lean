import Duvm.Common.Page
import Duvm.Library.ByteMemory
import Duvm.Library.RingBuffer

/-!
# The shared ring of the kernel module

The memory of `duvm-kmod/src/ring.c` which the kernel module shares with the
daemon, and the functions which the kernel side runs on it: submission to the
request ring, polling of the completion ring, and the bitmap allocator of the
staging slots in `main.c`. The header indices, the entry arrays and the staging
bytes are the mapped pages; the bitmap and the connection flag are private to
the kernel.

Fields which no function reads (`flags`, `pfn`, `handle`) are left out. Indices
stay below the capacity, a power of two of 32 bits, so they are numbers.
-/

namespace Duvm.Kmod

open Function (update)

inductive DuvmOp where
  | nop
  | store
  | load
  | invalidate
deriving DecidableEq, Repr

/-- Ring buffer request: kernel to daemon. -/
structure DuvmRequest where
  op : DuvmOp
  seq : ℕ
  offset : UInt64
  stagingSlot : ℕ
deriving DecidableEq, Repr

/-- Ring buffer completion: daemon to kernel; `result` is 0 or a negative error. -/
structure DuvmCompletion where
  seq : ℕ
  result : ℤ
  stagingSlot : ℕ
deriving DecidableEq, Repr

inductive Errno where
  | eagain
  | enodev
  | ebusy
  | einval
  | enomem
deriving DecidableEq, Repr

structure DuvmRing where
  reqWriteIdx : ℕ
  reqReadIdx : ℕ
  compWriteIdx : ℕ
  compReadIdx : ℕ
  capacity : ℕ
  requests : ℕ → DuvmRequest
  completions : ℕ → DuvmCompletion
  staging : ByteMemory
  stagingPages : ℕ
  stagingBitmap : ℕ → Bool
  daemonConnected : Bool

/-- `duvm_ring_init`: zeroed pages, so every entry starts out as a zero `nop`. -/
def duvmRingInit (capacity stagingPages : ℕ) : DuvmRing where
  reqWriteIdx := 0
  reqReadIdx := 0
  compWriteIdx := 0
  compReadIdx := 0
  capacity := capacity
  requests := fun _ => ⟨.nop, 0, 0, 0⟩
  completions := fun _ => ⟨0, 0, 0⟩
  staging := fun _ => 0
  stagingPages := stagingPages
  stagingBitmap := fun _ => false
  daemonConnected := false

/-- The first zero bit below `size`, or `size` when there is none. -/
def findFirstZeroBit (bitmap : ℕ → Bool) (size : ℕ) : ℕ :=
  ((List.range size).find? fun bit => !bitmap bit).getD size

def duvmAllocStagingSlot (ring : DuvmRing) : Option ℕ × DuvmRing :=
  let bit := findFirstZeroBit ring.stagingBitmap ring.stagingPages
  if bit ≥ ring.stagingPages then (none, ring)
  else (some bit, { ring with stagingBitmap := update ring.stagingBitmap bit true })

def duvmFreeStagingSlot (ring : DuvmRing) (slot : ℕ) : DuvmRing :=
  { ring with stagingBitmap := update ring.stagingBitmap slot false }

def duvmRingSubmit (ring : DuvmRing) (req : DuvmRequest) : Except Errno Unit × DuvmRing :=
  if !ring.daemonConnected then (.error .enodev, ring)
  else
    let nextWrite := RingBuffer.advance ring.capacity ring.reqWriteIdx
    if nextWrite = ring.reqReadIdx then (.error .eagain, ring)
    else
      (.ok (), { ring with
        requests := update ring.requests ring.reqWriteIdx req
        reqWriteIdx := nextWrite })

def duvmRingPollCompletion (ring : DuvmRing) : Except Errno DuvmCompletion × DuvmRing :=
  if ring.compReadIdx = ring.compWriteIdx then (.error .eagain, ring)
  else
    (.ok (ring.completions ring.compReadIdx),
      { ring with compReadIdx := RingBuffer.advance ring.capacity ring.compReadIdx })

theorem findFirstZeroBit_spec {bitmap : ℕ → Bool} {size : ℕ}
    (found : findFirstZeroBit bitmap size < size) :
    bitmap (findFirstZeroBit bitmap size) = false := by
  unfold findFirstZeroBit at found ⊢
  cases search : (List.range size).find? fun bit => !bitmap bit with
  | none => simp [search] at found
  | some bit =>
      have zero := List.find?_some search
      simpa using zero

/-- An allocated slot was free, is in range and is now marked. -/
theorem duvmAllocStagingSlot_eq_some {ring after : DuvmRing} {slot : ℕ}
    (allocated : duvmAllocStagingSlot ring = (some slot, after)) :
    slot < ring.stagingPages ∧ ring.stagingBitmap slot = false ∧
      after = { ring with stagingBitmap := update ring.stagingBitmap slot true } := by
  unfold duvmAllocStagingSlot at allocated
  simp only [ge_iff_le] at allocated
  split at allocated
  · simp at allocated
  · next room =>
      simp only [Prod.mk.injEq, Option.some.injEq] at allocated
      rcases allocated with ⟨rfl, rfl⟩
      have inside := Nat.not_le.mp room
      exact ⟨inside, findFirstZeroBit_spec inside, rfl⟩

/-- A polled completion is the one in the reader's cell. -/
theorem duvmRingPollCompletion_eq_ok {ring after : DuvmRing} {comp : DuvmCompletion}
    (polled : duvmRingPollCompletion ring = (.ok comp, after)) :
    ring.compReadIdx ≠ ring.compWriteIdx ∧ comp = ring.completions ring.compReadIdx ∧
      after = { ring with
        compReadIdx := RingBuffer.advance ring.capacity ring.compReadIdx } := by
  unfold duvmRingPollCompletion at polled
  split at polled
  · simp at polled
  · next pending =>
      simp only [Prod.mk.injEq, Except.ok.injEq] at polled
      exact ⟨pending, polled.1.symm, polled.2.symm⟩

end Duvm.Kmod
