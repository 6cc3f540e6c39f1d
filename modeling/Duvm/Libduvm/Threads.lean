import Duvm.Libduvm.Pool
import Duvm.Library.Linearizability
import Mathlib.Data.List.Permutation

/-!
# The C interface called by several threads

`GLOBAL_POOL` is shared by the threads of a process, and its backends lock for one
access at a time. A call is therefore a sequence of accesses, between which other
threads make theirs: `duvm_store_page` gets the pool, compares the number of pages
with the limit under the read lock, takes the next offset from the counter, and
inserts the page under the write lock. The other calls make one access to the pages,
`duvm_capacity_total` and `duvm_capacity_used` one for each backend, in the order in which
the map of the backends is iterated over.

`CallPoint` has one constructor for each place between two accesses. When no other
thread is in between, a call does what its definition in `Duvm.Libduvm.Pool` does.
-/

namespace Duvm

universe u

namespace PageTable

variable {Value : Type u}

/-- The comparison of `alloc_page`, under the read lock. -/
def isFull (table : PageTable Value) : Bool := table.len ≥ table.maxPages

/-- The rest of `alloc_page`, `fetch_add` on the counter and `PageHandle::new`, which may panic. -/
def takeHandle (table : PageTable Value) : Option (PageHandle × PageTable Value) :=
  (PageHandle.new table.backendId table.nextOffset).map fun handle =>
    (handle, { table with nextOffset := table.nextOffset + 1 })

variable {table : PageTable Value}

theorem allocPage_of_full (full : UInt64 → DuvmError) (isFull : table.isFull = true) :
    table.allocPage full = (.err (full table.maxPages), table) := by
  rw [allocPage, if_pos (of_decide_eq_true isFull)]

theorem allocPage_of_taken (full : UInt64 → DuvmError) {after : PageTable Value}
    {handle : PageHandle} (room : table.isFull = false)
    (taken : table.takeHandle = some (handle, after)) :
    table.allocPage full = (.ok handle, after) := by
  simp only [takeHandle, Option.map_eq_some_iff, Prod.mk.injEq] at taken
  rcases taken with ⟨_, created, rfl, rfl⟩
  rw [allocPage, if_neg (of_decide_eq_false room)]
  simp only [created]

theorem allocPage_of_panicked (full : UInt64 → DuvmError) (room : table.isFull = false)
    (panics : table.takeHandle = none) :
    ∃ after, table.allocPage full = (.panic, after) := by
  rw [takeHandle, Option.map_eq_none_iff] at panics
  refine ⟨{ table with nextOffset := table.nextOffset + 1 }, ?_⟩
  rw [allocPage, if_neg (of_decide_eq_false room)]
  simp only [panics]

end PageTable

namespace LocalBackend

variable {codec : Lz4}

def isFull : LocalBackend codec → Bool
  | .memory backend => backend.toPageTable.isFull
  | .compress backend => backend.toPageTable.isFull

def takeHandle : LocalBackend codec → Option (PageHandle × LocalBackend codec)
  | .memory backend => backend.toPageTable.takeHandle.map fun taken =>
      (taken.1, .memory { backend with toPageTable := taken.2 })
  | .compress backend => backend.toPageTable.takeHandle.map fun taken =>
      (taken.1, .compress { backend with toPageTable := taken.2 })

theorem allocPage_memory (backend : MemoryBackend) :
    DuvmBackend.allocPage (.memory backend : LocalBackend codec) =
      (backend.toPageTable.allocPage .memoryFull).map id fun table =>
        .memory { backend with toPageTable := table } := rfl

theorem allocPage_compress (backend : CompressBackend codec) :
    DuvmBackend.allocPage (.compress backend : LocalBackend codec) =
      (backend.toPageTable.allocPage .compressFull).map id fun table =>
        .compress { backend with toPageTable := table } := rfl

variable {backend after : LocalBackend codec} {handle : PageHandle}

theorem allocPage_of_full (full : backend.isFull = true) :
    ∃ error, DuvmBackend.allocPage backend = (.err error, backend) := by
  cases backend with
  | memory backend =>
      rw [allocPage_memory, PageTable.allocPage_of_full .memoryFull full]
      exact ⟨_, rfl⟩
  | compress backend =>
      rw [allocPage_compress, PageTable.allocPage_of_full .compressFull full]
      exact ⟨_, rfl⟩

theorem allocPage_of_taken (room : backend.isFull = false)
    (taken : backend.takeHandle = some (handle, after)) :
    DuvmBackend.allocPage backend = (.ok handle, after) := by
  cases backend with
  | memory backend =>
      rw [takeHandle, Option.map_eq_some_iff] at taken
      rcases taken with ⟨⟨_, table⟩, taken, ⟨⟩⟩
      rw [allocPage_memory, PageTable.allocPage_of_taken .memoryFull room taken]
      rfl
  | compress backend =>
      rw [takeHandle, Option.map_eq_some_iff] at taken
      rcases taken with ⟨⟨_, table⟩, taken, ⟨⟩⟩
      rw [allocPage_compress, PageTable.allocPage_of_taken .compressFull room taken]
      rfl

theorem allocPage_of_panicked (room : backend.isFull = false) (panics : backend.takeHandle = none) :
    ∃ after, DuvmBackend.allocPage backend = (.panic, after) := by
  cases backend with
  | memory backend =>
      rw [takeHandle, Option.map_eq_none_iff] at panics
      rcases PageTable.allocPage_of_panicked .memoryFull room panics with ⟨table, panicked⟩
      rw [allocPage_memory, panicked]
      exact ⟨_, rfl⟩
  | compress backend =>
      rw [takeHandle, Option.map_eq_none_iff] at panics
      rcases PageTable.allocPage_of_panicked .compressFull room panics with ⟨table, panicked⟩
      rw [allocPage_compress, panicked]
      exact ⟨_, rfl⟩

end LocalBackend

namespace Libduvm

/-- What `duvm_capacity_total` and `duvm_capacity_used` return of `Pool::capacity`. -/
inductive Quantity where
  | total
  | used
deriving DecidableEq

def Quantity.select (sums : UInt64 × UInt64) : Quantity → UInt64
  | .total => sums.1
  | .used => sums.2

/-- The functions of the C interface, with their arguments. -/
inductive ApiCall where
  | init
  | storePage (data : Option PageBuffer)
  | loadPage (handle : UInt64) (buf : Option PageBuffer)
  | freePage (handle : UInt64)
  | capacity (quantity : Quantity)
deriving DecidableEq

/-- What they return; for a load, also what the buffer holds afterwards. -/
inductive ApiReply where
  | code (code : ℤ)
  | handle (handle : UInt64)
  | loaded (code : ℤ) (buf : Option PageBuffer)
  | pages (pages : UInt64)
deriving DecidableEq

/-- Where a thread is in a call; `called` is before its arguments are looked at. -/
inductive CallPoint where
  | idle
  | called (call : ApiCall)
  | checking (backendId : UInt8) (data : PageBuffer)
  | numbering (backendId : UInt8) (data : PageBuffer)
  | inserting (backendId : UInt8) (handle : PageHandle) (data : PageBuffer)
  | loading (handle : UInt64) (buf : PageBuffer)
  | freeing (handle : UInt64)
  | counting (backends : List UInt8) (sums : UInt64 × UInt64) (quantity : Quantity)
  | returning (reply : ApiReply)
deriving DecidableEq

section Advance

variable {codec : Lz4}

/-- The backend behind a reference into the pool. -/
def Library.backend (library : Library codec) (backendId : UInt8) : Option (LocalBackend codec) :=
  library.globalPool.bind fun pool => pool.backends.lookup backendId

def Library.setBackend (library : Library codec) (backendId : UInt8)
    (backend : LocalBackend codec) : Library codec :=
  ⟨library.globalPool.map fun pool => pool.setBackend backendId backend⟩

/-- One backend is added to the sums of `Pool::capacity`. -/
def addCapacity (sums : UInt64 × UInt64) (backend : LocalBackend codec) : UInt64 × UInt64 :=
  (saturatingAdd sums.1 (DuvmBackend.capacity backend).1,
    saturatingAdd sums.2 (DuvmBackend.capacity backend).2)

/-- One access of a thread, and where it is after it. A panic aborts the process. -/
def CallPoint.advance (order : IterOrder UInt8) (library : Library codec) :
    CallPoint → Option (Library codec × CallPoint)
  | .idle => none
  | .called .init =>
      let (code, library) := library.duvmInit
      some (library, .returning (.code code))
  | .called (.storePage none) => some (library, .returning (.handle noHandle))
  | .called (.storePage (some data)) =>
      match library.globalPool with
      | none => some (library, .returning (.handle noHandle))
      | some pool =>
          match pool.preferred with
          | none => some (library, .returning (.handle noHandle))
          | some (backendId, _) => some (library, .checking backendId data)
  | .checking backendId data =>
      (library.backend backendId).map fun backend =>
        (library, if backend.isFull then .returning (.handle noHandle)
          else .numbering backendId data)
  | .numbering backendId data =>
      (library.backend backendId).bind fun backend =>
        backend.takeHandle.map fun (handle, after) =>
          (library.setBackend backendId after, .inserting backendId handle data)
  | .inserting backendId handle data =>
      (library.backend backendId).map fun backend =>
        match DuvmBackend.storePage backend handle data with
        | (.ok (), after) =>
            (library.setBackend backendId after, .returning (.handle handle.raw))
        | (.error _, after) =>
            (library.setBackend backendId after, .returning (.handle noHandle))
  | .called (.loadPage _ none) => some (library, .returning (.loaded (-1) none))
  | .called (.loadPage handle (some buf)) =>
      match library.globalPool with
      | none => some (library, .returning (.loaded (-1) (some buf)))
      | some _ => some (library, .loading handle buf)
  | .loading handle buf =>
      let (code, after, library) := library.duvmLoadPage handle (some buf)
      some (library, .returning (.loaded code after))
  | .called (.freePage handle) =>
      match library.globalPool with
      | none => some (library, .returning (.code (-1)))
      | some _ => some (library, .freeing handle)
  | .freeing handle =>
      let (code, library) := library.duvmFreePage handle
      some (library, .returning (.code code))
  | .called (.capacity quantity) =>
      match library.globalPool with
      | none => some (library, .returning (.pages 0))
      | some pool => some (library, .counting (order.order pool.backends.keys) (0, 0) quantity)
  | .counting [] sums quantity => some (library, .returning (.pages (quantity.select sums)))
  | .counting (backendId :: rest) sums quantity =>
      (library.backend backendId).map fun backend =>
        (library, .counting rest (addCapacity sums backend) quantity)
  | .returning _ => none

/-- The call as one step, by the functions of the library. -/
def ApiCall.serve (library : Library codec) : ApiCall → Option (ApiReply × Library codec)
  | .init => some (library.duvmInit.map .code id)
  | .storePage data => (library.duvmStorePage data).map (Prod.map .handle id)
  | .loadPage handle buf =>
      let (code, after, library) := library.duvmLoadPage handle buf
      some (.loaded code after, library)
  | .freePage handle => some ((library.duvmFreePage handle).map .code id)
  | .capacity .total => some (.pages library.duvmCapacityTotal, library)
  | .capacity .used => some (.pages library.duvmCapacityUsed, library)

/-- A thread which no other thread interrupts. -/
def alone (order : IterOrder UInt8) (state : Library codec × CallPoint) (_ : Unit) :
    Option (Library codec × CallPoint) :=
  state.2.advance order state.1

section Alone

open Transition

/-- The process has the library with its two backends, or has not initialised it. -/
def Library.Standalone (library : Library codec) : Prop :=
  ∀ pool, library.globalPool = some pool → ∃ memory compress, pool = .ofBackends memory compress

theorem Pool.preferred_ofBackends (memory compress : LocalBackend codec) :
    (ofBackends memory compress).preferred = some (1, compress) := rfl

variable (order : IterOrder UInt8)

theorem storePage_alone (memory compress : LocalBackend codec) (data : PageBuffer) :
    ∃ steps, run (alone order)
        (⟨some (.ofBackends memory compress)⟩, .called (.storePage (some data))) steps =
      (ApiCall.serve ⟨some (.ofBackends memory compress)⟩ (.storePage (some data))).map
        fun served => (served.2, .returning served.1) := by
  have found : Library.backend ⟨some (.ofBackends memory compress)⟩ 1 = some compress := rfl
  cases full : compress.isFull with
  | true =>
      rcases LocalBackend.allocPage_of_full full with ⟨error, refused⟩
      refine ⟨[(), ()], ?_⟩
      simp [run_cons, alone, CallPoint.advance, Pool.preferred_ofBackends, found, full,
        ApiCall.serve, Library.duvmStorePage, Pool.store, refused, Pool.setBackend_compress]
  | false =>
      cases taken : compress.takeHandle with
      | none =>
          rcases LocalBackend.allocPage_of_panicked full taken with ⟨after, panicked⟩
          refine ⟨[(), (), ()], ?_⟩
          simp [run_cons, alone, CallPoint.advance, Pool.preferred_ofBackends, found, full, taken,
            ApiCall.serve, Library.duvmStorePage, Pool.store, panicked]
      | some handled =>
          rcases handled with ⟨handle, issued⟩
          have allocated := LocalBackend.allocPage_of_taken full taken
          have refound : Library.backend
              (Library.setBackend ⟨some (.ofBackends memory compress)⟩ 1 issued) 1 =
                some issued := rfl
          refine ⟨[(), (), (), ()], ?_⟩
          simp only [run_cons, run_nil, alone, CallPoint.advance, Pool.preferred_ofBackends, found,
            refound, full, taken, ApiCall.serve, Library.duvmStorePage, Pool.store, allocated,
            Option.bind_some, Option.map_some, Bool.false_eq_true, if_false]
          rcases DuvmBackend.storePage issued handle data with ⟨_ | done, after⟩
          · rfl
          · rfl

/-- The sums are the same in either order. -/
theorem capacity_alone (memory compress : LocalBackend codec) (quantity : Quantity) :
    ∃ steps, run (alone order)
        (⟨some (.ofBackends memory compress)⟩, .called (.capacity quantity)) steps =
      (ApiCall.serve ⟨some (.ofBackends memory compress)⟩ (.capacity quantity)).map
        fun served => (served.2, .returning served.1) := by
  have keys : (Pool.ofBackends memory compress).backends.keys = [1, 0] := rfl
  have isMemory : Library.backend ⟨some (.ofBackends memory compress)⟩ 0 = some memory := rfl
  have isCompress : Library.backend ⟨some (.ofBackends memory compress)⟩ 1 = some compress := rfl
  have swapped : addCapacity (addCapacity (0, 0) memory) compress =
      addCapacity (addCapacity (0, 0) compress) memory := by
    simp only [addCapacity, zero_saturatingAdd, saturatingAdd_comm]
  refine ⟨[(), (), (), ()], ?_⟩
  simp only [run_cons, run_nil, alone, CallPoint.advance, keys, Option.bind_some]
  rcases List.perm_pair.mp (order.perm [1, 0]) with listed | listed
  · simp only [listed, isMemory, isCompress, Option.map_some, Option.bind_some]
    cases quantity with
    | total => rfl
    | used => rfl
  · simp only [listed, isMemory, isCompress, Option.map_some, Option.bind_some, swapped]
    cases quantity with
    | total => rfl
    | used => rfl

/-- A call which is not interrupted does what its function does. -/
theorem serve_alone {library : Library codec} (standalone : library.Standalone) (call : ApiCall) :
    ∃ steps, run (alone order) (library, .called call) steps =
      (call.serve library).map fun served => (served.2, .returning served.1) := by
  rcases library with ⟨_ | pool⟩
  · cases call with
    | init => exact ⟨[()], rfl⟩
    | storePage data =>
        cases data with
        | none => exact ⟨[()], rfl⟩
        | some data => exact ⟨[()], rfl⟩
    | loadPage handle buf =>
        cases buf with
        | none => exact ⟨[()], rfl⟩
        | some buf => exact ⟨[()], rfl⟩
    | freePage handle => exact ⟨[()], rfl⟩
    | capacity quantity =>
        cases quantity with
        | total => exact ⟨[()], rfl⟩
        | used => exact ⟨[()], rfl⟩
  · rcases standalone pool rfl with ⟨memory, compress, rfl⟩
    cases call with
    | init => exact ⟨[()], rfl⟩
    | storePage data =>
        cases data with
        | none => exact ⟨[()], rfl⟩
        | some data => exact storePage_alone order memory compress data
    | loadPage handle buf =>
        cases buf with
        | none => exact ⟨[()], rfl⟩
        | some buf => exact ⟨[(), ()], rfl⟩
    | freePage handle => exact ⟨[(), ()], rfl⟩
    | capacity quantity => exact capacity_alone order memory compress quantity

end Alone

end Advance

section Process

open Function (update)
open Linearizability (Event)

/-- A process: the library, its threads, and what they have called and been returned. -/
structure Process (Thread : Type u) (codec : Lz4) where
  library : Library codec
  threads : Thread → CallPoint
  history : List (Event Thread ApiCall ApiReply)

inductive ThreadAction (Thread : Type u) where
  | call (thread : Thread) (call : ApiCall)
  | proceed (thread : Thread)
deriving DecidableEq

namespace Process

variable {Thread : Type u} [DecidableEq Thread] {codec : Lz4}

def start (Thread : Type u) (codec : Lz4) : Process Thread codec :=
  ⟨⟨none⟩, fun _ => .idle, []⟩

/-- A thread calls when it has returned from its last call; else it makes its next access. -/
def step (order : IterOrder UInt8) (process : Process Thread codec) :
    ThreadAction Thread → Option (Process Thread codec)
  | .call thread call =>
      if process.threads thread = .idle then
        some { process with
          threads := update process.threads thread (.called call)
          history := process.history ++ [.called thread call] }
      else none
  | .proceed thread =>
      match process.threads thread with
      | .returning reply =>
          some { process with
            threads := update process.threads thread .idle
            history := process.history ++ [.returned thread reply] }
      | point =>
          (point.advance order process.library).map fun (library, next) =>
            { process with library, threads := update process.threads thread next }

/-- What a step can be. -/
inductive Stepped (order : IterOrder UInt8) (process : Process Thread codec) :
    Process Thread codec → Prop
  | called {thread : Thread} (call : ApiCall) (atIdle : process.threads thread = .idle) :
      Stepped order process { process with
        threads := update process.threads thread (.called call)
        history := process.history ++ [.called thread call] }
  | returned {thread : Thread} {reply : ApiReply}
      (atReturn : process.threads thread = .returning reply) :
      Stepped order process { process with
        threads := update process.threads thread .idle
        history := process.history ++ [.returned thread reply] }
  | advanced {thread : Thread} {library : Library codec} {next : CallPoint}
      (access : (process.threads thread).advance order process.library = some (library, next)) :
      Stepped order process { process with
        library, threads := update process.threads thread next }

theorem stepped_of_step {order : IterOrder UInt8} {process next : Process Thread codec}
    {action : ThreadAction Thread} (stepped : process.step order action = some next) :
    process.Stepped order next := by
  cases action with
  | call thread call =>
      simp only [step, Option.ite_none_right_eq_some, Option.some.injEq] at stepped
      rcases stepped with ⟨atIdle, rfl⟩
      exact .called call atIdle
  | proceed thread =>
      rw [step] at stepped
      cases atPoint : process.threads thread with
      | returning reply =>
          rw [atPoint] at stepped
          cases stepped
          exact .returned atPoint
      | _ =>
          rw [atPoint] at stepped
          simp only [Option.map_eq_some_iff] at stepped
          rcases stepped with ⟨⟨library, point⟩, access, rfl⟩
          rw [← atPoint] at access
          exact .advanced access

end Process

end Process

end Libduvm

end Duvm
