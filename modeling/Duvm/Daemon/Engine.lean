import Duvm.Daemon.KmodRing
import Duvm.Daemon.Policy
import Duvm.Library.Float64
import Mathlib.Data.List.Sort

/-!
# The daemon engine

`Engine` of `duvm-daemon/src/engine.rs`: `store_page` with the release of the
old page, the choice of a tier, the eviction of one page when every backend is
full and the loop over the candidate backends; `load_page` and
`invalidate_page`. The engine is generic in the type of its backends.

The map of backends is never changed after construction, only the backends in
it are, so its iteration order stays what it is: the order of its entries.
-/

namespace Duvm.Daemon

universe u

/-- The counters which the engine maintains. -/
structure DaemonStats where
  pagesStored : UInt64
  pagesLoaded : UInt64
  pagesInvalidated : UInt64
  storeErrors : UInt64
  loadErrors : UInt64
deriving DecidableEq

namespace DaemonStats

def new : DaemonStats := ⟨0, 0, 0, 0, 0⟩

def stored (stats : DaemonStats) : DaemonStats :=
  { stats with pagesStored := stats.pagesStored + 1 }

def loaded (stats : DaemonStats) : DaemonStats :=
  { stats with pagesLoaded := stats.pagesLoaded + 1 }

def invalidated (stats : DaemonStats) : DaemonStats :=
  { stats with pagesInvalidated := stats.pagesInvalidated + 1 }

def storeFailed (stats : DaemonStats) : DaemonStats :=
  { stats with storeErrors := stats.storeErrors + 1 }

def loadFailed (stats : DaemonStats) : DaemonStats :=
  { stats with loadErrors := stats.loadErrors + 1 }

end DaemonStats

/-- The daemon engine coordinates backends, policy and request processing. -/
structure Engine (Backend : Type u) where
  backends : HashMap UInt8 Backend
  policy : PolicyEngine
  stats : DaemonStats

namespace Engine

variable {Backend : Type u} [DuvmBackend Backend]

omit [DuvmBackend Backend] in
def withBackends (backends : HashMap UInt8 Backend) : Engine Backend :=
  ⟨backends, .new, .new⟩

/-- Healthy and not full. -/
def hasRoom (backend : Backend) : Bool :=
  DuvmBackend.isHealthy backend &&
    (DuvmBackend.capacity backend).2 < (DuvmBackend.capacity backend).1

/-- Capacity snapshots of all active backends. -/
def backendCapacities (engine : Engine Backend) : List BackendCapacity :=
  engine.backends.entries.map fun entry =>
    { backendId := entry.1
      tier := DuvmBackend.tier entry.2
      totalPages := (DuvmBackend.capacity entry.2).1
      usedPages := (DuvmBackend.capacity entry.2).2
      healthy := DuvmBackend.isHealthy entry.2 }

def utilization (capacity : UInt64 × UInt64) : ℚ :=
  if capacity.1 = 0 then 1
  else Float64.div (Float64.ofNat capacity.2.toNat) (Float64.ofNat capacity.1.toNat)

/-- Least loaded first, then by identifier. -/
def loadOrder (left right : UInt8 × ℚ) : Prop :=
  left.2 < right.2 ∨ left.2 = right.2 ∧ left.1 ≤ right.1

instance : DecidableRel loadOrder := fun _ _ => inferInstanceAs (Decidable (_ ∨ _))

/-- The healthy backends of the tier which have room, or of any tier if there is none,
least loaded first. -/
def tierBackendCandidates (engine : Engine Backend) (tier : Tier) : List UInt8 :=
  let inTier := engine.backends.entries.filter fun entry =>
    DuvmBackend.tier entry.2 = tier && hasRoom entry.2
  let candidates :=
    if inTier.isEmpty then engine.backends.entries.filter fun entry => hasRoom entry.2
    else inTier
  ((candidates.map fun entry => (entry.1, utilization (DuvmBackend.capacity entry.2))).insertionSort
    loadOrder).map Prod.fst

omit [DuvmBackend Backend] in
/-- The engine after a backend has changed its state. -/
def setBackend (engine : Engine Backend) (id : UInt8) (backend : Backend) : Engine Backend :=
  { engine with backends := engine.backends.replace id backend }

/-- Frees a page of a backend, if there is such a backend. -/
def freeOn (engine : Engine Backend) (id : UInt8) (handle : PageHandle) :
    Option (Except DuvmError Unit) × Engine Backend :=
  match engine.backends.lookup id with
  | none => (none, engine)
  | some backend =>
      let (result, backend) := DuvmBackend.freePage backend handle
      (some result, engine.setBackend id backend)

omit [DuvmBackend Backend] in
def untrack (engine : Engine Backend) (offset : UInt64) : Engine Backend :=
  { engine with policy := (engine.policy.remove offset).2 }

/-- Frees the old page if this offset was already stored. -/
def releaseOld (engine : Engine Backend) (offset : UInt64) : Engine Backend :=
  match engine.policy.lookup offset with
  | none => engine
  | some old => ((engine.untrack offset).freeOn old.backendId old.handle).2

theorem releaseOld_of_untracked {engine : Engine Backend} {offset : UInt64}
    (untracked : engine.policy.lookup offset = none) : engine.releaseOld offset = engine := by
  unfold releaseOld
  rw [untracked]

/-- The loop of `try_evict_one` over the backends. -/
def tryEvictFrom (env : CallEnv) : List UInt8 → Engine Backend → Option UInt64 × Engine Backend
  | [], engine => (none, engine)
  | id :: rest, engine =>
      match engine.policy.findEvictionCandidate env id with
      | none => tryEvictFrom env rest engine
      | some offset =>
          match engine.policy.lookup offset with
          | none => tryEvictFrom env rest engine
          | some entry =>
              match (engine.untrack offset).freeOn id entry.handle with
              | (some (.ok ()), engine) =>
                  (some offset, { engine with stats := engine.stats.invalidated })
              | (_, engine) => tryEvictFrom env rest engine

/-- Attempts to evict one LRU page from any backend. -/
def tryEvictOne (env : CallEnv) (engine : Engine Backend) : Option UInt64 × Engine Backend :=
  tryEvictFrom env engine.backends.keys engine

/-- Selects a tier; when all backends are full, tries LRU eviction once. -/
def chooseTier (env : CallEnv) (engine : Engine Backend) : Except DuvmError Tier × Engine Backend :=
  match PolicyEngine.selectTier engine.backendCapacities with
  | some tier => (.ok tier, engine)
  | none =>
      match engine.tryEvictOne env with
      | (none, engine) =>
          (.error .noEvictablePages, { engine with stats := engine.stats.storeFailed })
      | (some _, engine) =>
          match PolicyEngine.selectTier engine.backendCapacities with
          | some tier => (.ok tier, engine)
          | none => (.error .fullAfterEviction, { engine with stats := engine.stats.storeFailed })

/-- The page which a store of the offset gives up to make room, if it does. -/
def evicted (env : CallEnv) (engine : Engine Backend) (offset : UInt64) : Option UInt64 :=
  match PolicyEngine.selectTier (engine.releaseOld offset).backendCapacities with
  | some _ => none
  | none => ((engine.releaseOld offset).tryEvictOne env).1

/-- Tries each candidate backend; if one fails, tries the next. -/
def storeOn (env : CallEnv) (offset : UInt64) (data : PageBuffer) (tier : Tier) :
    List UInt8 → Option DuvmError → Engine Backend → Outcome PageHandle × Engine Backend
  | [], lastErr, engine =>
      (.err (lastErr.getD (.noBackendForTier tier)),
        { engine with stats := engine.stats.storeFailed })
  | id :: rest, lastErr, engine =>
      match engine.backends.lookup id with
      | none => storeOn env offset data tier rest lastErr engine
      | some backend =>
          match DuvmBackend.allocPage backend with
          | (.panic, backend) => (.panic, engine.setBackend id backend)
          | (.err error, backend) =>
              storeOn env offset data tier rest (some error) (engine.setBackend id backend)
          | (.ok handle, backend) =>
              match DuvmBackend.storePage backend handle data with
              | (.error error, backend) =>
                  let backend := (DuvmBackend.freePage backend handle).2
                  storeOn env offset data tier rest (some error) (engine.setBackend id backend)
              | (.ok (), backend) =>
                  let engine := engine.setBackend id backend
                  (.ok handle,
                    { engine with
                      policy := engine.policy.recordStore env offset handle id tier
                      stats := engine.stats.stored })

def storePage (env : CallEnv) (engine : Engine Backend) (offset : UInt64) (data : PageBuffer) :
    Outcome PageHandle × Engine Backend :=
  match (engine.releaseOld offset).chooseTier env with
  | (.error error, engine) => (.err error, engine)
  | (.ok tier, engine) =>
      storeOn env offset data tier (engine.tierBackendCandidates tier) none engine

def loadPage (env : CallEnv) (engine : Engine Backend) (offset : UInt64) :
    Except DuvmError PageBuffer × Engine Backend :=
  match engine.policy.lookup offset with
  | none =>
      (.error (.offsetNotFound offset), { engine with stats := engine.stats.loadFailed })
  | some entry =>
      match engine.backends.lookup entry.backendId with
      | none =>
          (.error (.backendNotFound entry.backendId),
            { engine with stats := engine.stats.loadFailed })
      | some backend =>
          match DuvmBackend.loadPage backend entry.handle with
          | (.error error, backend) =>
              let engine := engine.setBackend entry.backendId backend
              (.error error, { engine with stats := engine.stats.loadFailed })
          | (.ok data, backend) =>
              let engine := engine.setBackend entry.backendId backend
              (.ok data,
                { engine with
                  policy := engine.policy.recordLoad env offset
                  stats := engine.stats.loaded })

def invalidatePage (engine : Engine Backend) (offset : UInt64) :
    Except DuvmError Unit × Engine Backend :=
  match engine.policy.lookup offset with
  | none => (.ok (), engine)
  | some entry =>
      match (engine.untrack offset).freeOn entry.backendId entry.handle with
      | (some (.error error), engine) => (.error error, engine)
      | (_, engine) => (.ok (), { engine with stats := engine.stats.invalidated })

/-- The engine as the ring consumer uses it. -/
def model : EngineModel CallEnv (Engine Backend) where
  storePage := storePage
  loadPage := loadPage

end Engine

end Duvm.Daemon
