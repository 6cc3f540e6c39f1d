import Duvm.Common.Page

/-!
# The backend interface

`DuvmBackend` is the trait of `duvm-backend-trait/src/lib.rs`, the interface
through which the engine reaches every store of pages. A backend object has
interior mutability, so each operation takes the backend's state and returns
the state it leaves behind next to its result.

Errors carry the data their texts are made of. The one panic on these paths is
the assertion of `PageHandle::new`, which only `alloc_page` reaches; a panic
unwinds through its callers and is therefore kept apart from an error.
-/

namespace Duvm

universe u v

/-- The errors returned by the backends and by the engine. -/
inductive DuvmError where
  | memoryFull (maxPages : UInt64)
  | compressFull (maxPages : UInt64)
  | rdmaFull (maxPages : UInt64)
  | tcpFull (maxPages : UInt64)
  | pageNotFound (handle : PageHandle)
  | decompressionFailed
  | sizeMismatch (got : ℕ)
  | rdmaNotInitialized
  | tcpNotConnected (addr : String)
  | circuitBreakerOpen (addr : String) (failures : UInt32)
  | io
  | remoteAllocFailed
  | remoteFreeFailed (handle : PageHandle)
  | remoteStoreFailed
  | remoteLoadFailed
  | noEvictablePages
  | fullAfterEviction
  | noBackendForTier (tier : Tier)
  | offsetNotFound (offset : UInt64)
  | backendNotFound (backendId : UInt8)
deriving DecidableEq

/-- `Display` for handles. -/
def PageHandle.display (handle : PageHandle) : String :=
  let backend := handle.backendId
  let offset := handle.offset
  s!"PageHandle(backend={backend}, offset={offset})"

/-- The text of an error. -/
def DuvmError.message : DuvmError → String
  | .memoryFull maxPages => s!"memory backend full: {maxPages} pages"
  | .compressFull maxPages => s!"compress backend full: {maxPages} pages"
  | .rdmaFull maxPages => s!"RDMA backend full: {maxPages} pages"
  | .tcpFull maxPages => s!"TCP backend full: {maxPages} pages"
  | .pageNotFound handle => "page not found: " ++ handle.display
  | .decompressionFailed => "LZ4 decompression failed"
  | .sizeMismatch got => s!"decompressed size mismatch: expected {PAGE_SIZE}, got {got}"
  | .rdmaNotInitialized => "RDMA backend not initialized"
  | .tcpNotConnected addr => s!"TCP backend not connected to {addr}"
  | .circuitBreakerOpen addr failures =>
      s!"TCP backend {addr} circuit breaker open ({failures} consecutive failures, backoff)"
  | .io => "I/O error"
  | .remoteAllocFailed => "alloc failed on remote server"
  | .remoteFreeFailed handle => "free failed on remote server for handle " ++ handle.display
  | .remoteStoreFailed => "store failed on remote server"
  | .remoteLoadFailed => "load failed: page not found on remote server"
  | .noEvictablePages => "all backends are full — no tier available and no evictable pages"
  | .fullAfterEviction => "all backends full even after eviction"
  | .noBackendForTier tier => "no backend for tier " ++ tier.debug
  | .offsetNotFound offset => s!"page not found for offset {offset}"
  | .backendNotFound backendId => s!"backend {backendId} not found"

/-- What a call which may panic comes back with. -/
inductive Outcome (Value : Type u) where
  | ok (value : Value)
  | err (error : DuvmError)
  | panic
deriving DecidableEq

def Outcome.isOk {Value : Type u} : Outcome Value → Bool
  | .ok _ => true
  | .err _ => false
  | .panic => false

def Outcome.map {Value : Type u} {Other : Type v} (change : Value → Other) :
    Outcome Value → Outcome Other
  | .ok value => .ok (change value)
  | .err error => .err error
  | .panic => .panic

/-- Trait that all duvm backends must implement. -/
class DuvmBackend (Backend : Type u) where
  tier : Backend → Tier
  allocPage : Backend → Outcome PageHandle × Backend
  freePage : Backend → PageHandle → Except DuvmError Unit × Backend
  storePage : Backend → PageHandle → PageBuffer → Except DuvmError Unit × Backend
  loadPage : Backend → PageHandle → Except DuvmError PageBuffer × Backend
  capacity : Backend → UInt64 × UInt64
  isHealthy : Backend → Bool

/-- A backend of one of two kinds. -/
instance {Left : Type u} {Right : Type v} [DuvmBackend Left] [DuvmBackend Right] :
    DuvmBackend (Left ⊕ Right) where
  tier := Sum.elim DuvmBackend.tier DuvmBackend.tier
  allocPage
    | .inl backend => Prod.map id .inl (DuvmBackend.allocPage backend)
    | .inr backend => Prod.map id .inr (DuvmBackend.allocPage backend)
  freePage
    | .inl backend, handle => Prod.map id .inl (DuvmBackend.freePage backend handle)
    | .inr backend, handle => Prod.map id .inr (DuvmBackend.freePage backend handle)
  storePage
    | .inl backend, handle, data => Prod.map id .inl (DuvmBackend.storePage backend handle data)
    | .inr backend, handle, data => Prod.map id .inr (DuvmBackend.storePage backend handle data)
  loadPage
    | .inl backend, handle => Prod.map id .inl (DuvmBackend.loadPage backend handle)
    | .inr backend, handle => Prod.map id .inr (DuvmBackend.loadPage backend handle)
  capacity := Sum.elim DuvmBackend.capacity DuvmBackend.capacity
  isHealthy := Sum.elim DuvmBackend.isHealthy DuvmBackend.isHealthy

end Duvm
