import Duvm.Backend.PageTable

/-!
# The memory backend

`MemoryBackend` of `duvm-backend-memory/src/lib.rs`, which keeps pages as they
are.
-/

namespace Duvm

structure MemoryBackend extends PageTable PageBuffer

namespace MemoryBackend

def new (backendId : UInt8) (maxPages : UInt64) : MemoryBackend := ⟨.new backendId maxPages⟩

def allocPage (backend : MemoryBackend) : Outcome PageHandle × MemoryBackend :=
  let (result, table) := backend.toPageTable.allocPage .memoryFull
  (result, ⟨table⟩)

def freePage (backend : MemoryBackend) (handle : PageHandle) :
    Except DuvmError Unit × MemoryBackend :=
  (.ok (), ⟨backend.toPageTable.remove handle.offset⟩)

def storePage (backend : MemoryBackend) (handle : PageHandle) (data : PageBuffer) :
    Except DuvmError Unit × MemoryBackend :=
  (.ok (), ⟨backend.toPageTable.insert handle.offset data⟩)

def loadPage (backend : MemoryBackend) (handle : PageHandle) :
    Except DuvmError PageBuffer × MemoryBackend :=
  match backend.pages.lookup handle.offset with
  | some data => (.ok data, backend)
  | none => (.error (.pageNotFound handle), backend)

end MemoryBackend

end Duvm
