import Duvm.Common.Page
import Duvm.Library.Alignment
import Duvm.Library.Transition

/-!
# Serving page faults in user space

`uffd_helper.c` of `duvm-daemon`. A region is registered with userfaultfd, and a
page of it which is touched for the first time stops the thread which touches it.
A second thread reads the fault, has a resolver fill a buffer with the page, and
copies the buffer into the region, which lets the first thread go on.

The resolver may keep state of its own, and it is given the buffer as the last call
has left it: the buffer is a static variable, and neither the result of the
resolver nor that of the copy is looked at.

`duvm_uffd_run_cached` has the pages of a cache served, which is filled beforehand.
-/

namespace Duvm.Daemon.Uffd

open Function (update)

universe u

/-- What `calloc` has returned: a number of pages, and what is in them. -/
structure CacheBlock where
  count : ℕ
  page : ℕ → PageBuffer

/-- `g_page_cache`, `g_cache_capacity` and `g_cache_size`. -/
structure PageCache where
  block : Option CacheBlock
  capacity : ℤ
  size : ℤ

namespace PageCache

def initial : PageCache := ⟨none, 0, 0⟩

/-- `duvm_cache_init`. A negative number is too large for `calloc` once it is unsigned. -/
def init (cache : PageCache) (maxPages : ℤ) (available : Bool) : ℤ × PageCache :=
  if available ∧ 0 ≤ maxPages then
    (0, ⟨some ⟨maxPages.toNat, fun _ => .zero⟩, maxPages, 0⟩)
  else (-1, { cache with block := none })

/-- `duvm_cache_set_page`. -/
def setPage (cache : PageCache) (idx : ℤ) (data : PageBuffer) : PageCache :=
  match cache.block with
  | none => cache
  | some block =>
      if 0 ≤ idx ∧ idx < cache.capacity then
        { cache with
          block := some { block with page := update block.page idx.toNat data }
          size := if cache.size ≤ idx then idx + 1 else cache.size }
      else cache

/-- `cache_resolver`. -/
def resolve (cache : PageCache) (idx : ℤ) : PageBuffer :=
  match cache.block with
  | none => .zero
  | some block => if 0 ≤ idx ∧ idx < cache.size then block.page idx.toNat else .zero

end PageCache

/-- `duvm_page_resolver_fn`: fills the buffer for a page, and has a context of its own. -/
abbrev Resolver (Ctx : Type u) := ℤ → PageBuffer → Ctx → PageBuffer × Ctx

/-- What is done without a resolver. -/
def patternResolver : Resolver Unit := fun idx _ ctx =>
  (.filled (UInt8.ofNat (idx.tmod 251).toNat), ctx)

def cachedResolver (cache : PageCache) : Resolver Unit := fun idx _ ctx => (cache.resolve idx, ctx)

/-- A region which `mmap` has returned for an `int` number of pages. -/
structure Region where
  base : UInt64
  numPages : ℕ
  isInt : numPages < 2 ^ 31
  aligned : base.toNat % PAGE_SIZE = 0
  inside : base.toNat + numPages * PAGE_SIZE ≤ 2 ^ 64

/-- The page which an address is in. -/
def pageOf (address : UInt64) : UInt64 := address &&& ~~~4095

/-- `(pa - s->base) / DUVM_PAGE_SIZE`, as an `int`. -/
def Region.indexOf (region : Region) (pa : UInt64) : ℤ :=
  (BitVec.ofNat 32 ((pa - region.base) / UInt64.ofNat PAGE_SIZE).toNat).toInt

/-- The address which is touched in a page of the region. -/
def Region.address (region : Region) (page : ℕ) : UInt64 :=
  region.base + UInt64.ofNat (page * PAGE_SIZE)

/-- The thread which called `duvm_uffd_run`. -/
inductive Toucher where
  | touch (page : ℕ)
  | blocked (page : ℕ)
  | closing
  | joining
  | returned
deriving DecidableEq

/-- `uffd_handler_thread`. -/
inductive Handler where
  | reading
  | resolving (pa : UInt64)
  | copying (pa : UInt64)
  | counting
  | finished
deriving DecidableEq

/-- Both threads, the pages of the region which are there, and the fault which was raised and not
read. For the record, whether a copy has failed. -/
structure Machine (Ctx : Type u) where
  toucher : Toucher
  handler : Handler
  iteration : ℕ
  faults : ℕ
  src : PageBuffer
  ctx : Ctx
  pages : ℕ → Option PageBuffer
  message : Option UInt64
  closed : Bool
  lost : Bool

/-- A thread takes its next step; the kernel may fail to copy a page. -/
inductive Turn where
  | toucher
  | handler (copies : Bool)

namespace Machine

variable {Ctx : Type u}

/-- The handler has been started. The buffer may hold the page of an earlier run. -/
def start (src : PageBuffer) (ctx : Ctx) : Machine Ctx where
  toucher := .touch 0
  handler := .reading
  iteration := 0
  faults := 0
  src := src
  ctx := ctx
  pages := fun _ => none
  message := none
  closed := false
  lost := false

def toucherStep (region : Region) (machine : Machine Ctx) : Option (Machine Ctx) :=
  match machine.toucher with
  | .touch page =>
      if page < region.numPages then
        if (machine.pages page).isSome then some { machine with toucher := .touch (page + 1) }
        else
          some { machine with
            toucher := .blocked page
            message := some (region.address page) }
      else some { machine with toucher := .closing }
  | .blocked page =>
      if (machine.pages page).isSome then some { machine with toucher := .touch (page + 1) }
      else none
  | .closing => some { machine with toucher := .joining, closed := true }
  | .joining =>
      if machine.handler = .finished then some { machine with toucher := .returned } else none
  | .returned => none

/-- `read` blocks until there is a fault; on a descriptor which was closed it fails. -/
def handlerStep (region : Region) (resolver : Resolver Ctx) (machine : Machine Ctx)
    (copies : Bool) : Option (Machine Ctx) :=
  match machine.handler with
  | .reading =>
      if machine.iteration < region.numPages then
        match machine.message with
        | some address =>
            some { machine with handler := .resolving (pageOf address), message := none }
        | none => if machine.closed then some { machine with handler := .finished } else none
      else some { machine with handler := .finished }
  | .resolving pa =>
      let (src, ctx) := resolver (region.indexOf pa) machine.src machine.ctx
      some { machine with handler := .copying pa, src, ctx }
  | .copying pa =>
      if copies then
        some { machine with
          handler := .counting
          pages := update machine.pages ((pa.toNat - region.base.toNat) / PAGE_SIZE)
            (some machine.src) }
      else some { machine with handler := .counting, lost := true }
  | .counting =>
      some { machine with
        handler := .reading
        iteration := machine.iteration + 1
        faults := machine.faults + 1 }
  | .finished => none

def step (region : Region) (resolver : Resolver Ctx) (machine : Machine Ctx) :
    Turn → Option (Machine Ctx)
  | .toucher => machine.toucherStep region
  | .handler copies => machine.handlerStep region resolver copies

end Machine

end Duvm.Daemon.Uffd
