import Duvm.Backend.Contract

/-!
# The pool of the user-space library

`Pool` of `libduvm/src/pool.rs` in its standalone mode, over a memory backend and a
compression backend, and the functions of `libduvm/src/ffi.rs` through which a C program
uses the one pool of its process. A pointer is the page behind it, or nothing if it is null.

An operation which panics has no result. The one panic is that of `PageHandle::new`.
-/

namespace Duvm.Libduvm

/-- The errors of the pool; those of a backend are passed on. -/
inductive PoolError where
  | noBackends
  | backendNotFound (backendId : UInt8)
  | backendNotFoundForFree (backendId : UInt8)
  | backend (error : DuvmError)
deriving DecidableEq

/-- The text of an error. -/
def PoolError.message : PoolError → String
  | .noBackends => "no backends available"
  | .backendNotFound backendId => s!"backend {backendId} not found"
  | .backendNotFoundForFree backendId => s!"backend {backendId} not found for free"
  | .backend error => error.message

/-- `max_pages` of `BackendConfig::default()`. -/
def defaultMaxPages : UInt64 := 1024 * 1024

/-- `u64::saturating_add`. -/
def saturatingAdd (left right : UInt64) : UInt64 :=
  if left.toNat + right.toNat < 2 ^ 64 then left + right else UInt64.ofNat (2 ^ 64 - 1)

theorem zero_saturatingAdd (pages : UInt64) : saturatingAdd 0 pages = pages := by
  rw [saturatingAdd, if_pos, UInt64.zero_add]
  exact (Nat.zero_add _).symm ▸ pages.toNat_lt

theorem saturatingAdd_comm (left right : UInt64) :
    saturatingAdd left right = saturatingAdd right left := by
  rw [saturatingAdd, saturatingAdd, Nat.add_comm, UInt64.add_comm]

theorem saturatingAdd_zero (pages : UInt64) : saturatingAdd pages 0 = pages := by
  rw [saturatingAdd, if_pos, UInt64.add_zero]
  exact pages.toNat_lt

structure Pool (codec : Lz4) where
  backends : HashMap UInt8 (LocalBackend codec)

namespace Pool

variable {codec : Lz4}

/-- The pool of the two backends. -/
def ofBackends (memory compress : LocalBackend codec) : Pool codec :=
  ⟨((∅ : HashMap UInt8 (LocalBackend codec)).insert 0 memory).insert 1 compress⟩

def standalone (codec : Lz4) : Pool codec :=
  ofBackends (.memory (.new 0 defaultMaxPages)) (.compress (.new 1 defaultMaxPages))

/-- The pool after a backend has changed its state. -/
def setBackend (pool : Pool codec) (id : UInt8) (backend : LocalBackend codec) : Pool codec :=
  ⟨pool.backends.replace id backend⟩

/-- The backend which takes new pages: compression, or else memory. -/
def preferred (pool : Pool codec) : Option (UInt8 × LocalBackend codec) :=
  match pool.backends.lookup 1 with
  | some backend => some (1, backend)
  | none => (pool.backends.lookup 0).map fun backend => (0, backend)

/-- Stores a page and returns its handle. -/
def store (pool : Pool codec) (data : PageBuffer) :
    Option (Except PoolError PageHandle × Pool codec) :=
  match pool.preferred with
  | none => some (.error .noBackends, pool)
  | some (id, backend) =>
      match DuvmBackend.allocPage backend with
      | (.panic, _) => none
      | (.err error, backend) => some (.error (.backend error), pool.setBackend id backend)
      | (.ok handle, backend) =>
          match DuvmBackend.storePage backend handle data with
          | (.error error, backend) => some (.error (.backend error), pool.setBackend id backend)
          | (.ok (), backend) => some (.ok handle, pool.setBackend id backend)

/-- Loads a page by its handle. -/
def load (pool : Pool codec) (handle : PageHandle) : Except PoolError PageBuffer × Pool codec :=
  match pool.backends.lookup handle.backendId with
  | none => (.error (.backendNotFound handle.backendId), pool)
  | some backend =>
      match DuvmBackend.loadPage backend handle with
      | (.error error, backend) =>
          (.error (.backend error), pool.setBackend handle.backendId backend)
      | (.ok data, backend) => (.ok data, pool.setBackend handle.backendId backend)

def free (pool : Pool codec) (handle : PageHandle) : Except PoolError Unit × Pool codec :=
  match pool.backends.lookup handle.backendId with
  | none => (.error (.backendNotFoundForFree handle.backendId), pool)
  | some backend =>
      match DuvmBackend.freePage backend handle with
      | (.error error, backend) =>
          (.error (.backend error), pool.setBackend handle.backendId backend)
      | (.ok (), backend) => (.ok (), pool.setBackend handle.backendId backend)

/-- The total number of pages and the number in use, over all backends. -/
def capacity (pool : Pool codec) : UInt64 × UInt64 :=
  pool.backends.entries.foldl
    (fun sums entry =>
      (saturatingAdd sums.1 (DuvmBackend.capacity entry.2).1,
        saturatingAdd sums.2 (DuvmBackend.capacity entry.2).2))
    (0, 0)

end Pool

/-- `u64::MAX`, which `duvm_store_page` returns for an error. -/
def noHandle : UInt64 := UInt64.ofNat (2 ^ 64 - 1)

/-- The library as a process has it: `GLOBAL_POOL`. -/
structure Library (codec : Lz4) where
  globalPool : Option (Pool codec)

namespace Library

variable {codec : Lz4}

def duvmInit (library : Library codec) : ℤ × Library codec :=
  match library.globalPool with
  | some _ => (-1, library)
  | none => (0, ⟨some (.standalone codec)⟩)

def duvmStorePage (library : Library codec) (data : Option PageBuffer) :
    Option (UInt64 × Library codec) :=
  match data, library.globalPool with
  | none, _ => some (noHandle, library)
  | some _, none => some (noHandle, library)
  | some page, some pool =>
      match pool.store page with
      | none => none
      | some (.ok handle, pool) => some (handle.raw, ⟨some pool⟩)
      | some (.error _, pool) => some (noHandle, ⟨some pool⟩)

/-- What is returned, and what the buffer holds afterwards. -/
def duvmLoadPage (library : Library codec) (handle : UInt64) (buf : Option PageBuffer) :
    ℤ × Option PageBuffer × Library codec :=
  match buf, library.globalPool with
  | none, _ => (-1, none, library)
  | some buffer, none => (-1, some buffer, library)
  | some buffer, some pool =>
      match pool.load ⟨handle⟩ with
      | (.ok data, pool) => (0, some data, ⟨some pool⟩)
      | (.error _, pool) => (-1, some buffer, ⟨some pool⟩)

def duvmFreePage (library : Library codec) (handle : UInt64) : ℤ × Library codec :=
  match library.globalPool with
  | none => (-1, library)
  | some pool =>
      match pool.free ⟨handle⟩ with
      | (.ok (), pool) => (0, ⟨some pool⟩)
      | (.error _, pool) => (-1, ⟨some pool⟩)

def duvmCapacityTotal (library : Library codec) : UInt64 :=
  (library.globalPool.map fun pool => pool.capacity.1).getD 0

def duvmCapacityUsed (library : Library codec) : UInt64 :=
  (library.globalPool.map fun pool => pool.capacity.2).getD 0

end Library

namespace Pool

variable {codec : Lz4} (memory compress : LocalBackend codec)

theorem lookup_ofBackends (id : UInt8) :
    (ofBackends memory compress).backends.lookup id =
      if id = 1 then some compress else if id = 0 then some memory else none := by
  rw [ofBackends, HashMap.lookup_insert_eq_ite, HashMap.lookup_insert_eq_ite, AList.lookup_empty]

theorem setBackend_compress (after : LocalBackend codec) :
    (ofBackends memory compress).setBackend 1 after = ofBackends memory after := rfl

theorem entries_ofBackends :
    (ofBackends memory compress).backends.entries = [⟨1, compress⟩, ⟨0, memory⟩] := rfl

end Pool

end Duvm.Libduvm
