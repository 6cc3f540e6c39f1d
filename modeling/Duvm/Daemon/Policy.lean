import Duvm.Backend.Trait
import Duvm.Library.HashMap
import Duvm.Library.Selection

/-!
# The page placement policy

`PolicyEngine` of `duvm-daemon/src/policy.rs`: which backend holds the page of
an offset, under which handle, and when it was last used. `CallEnv` is what a
call depends on besides its arguments: the time which `Instant::now` shows and
the order in which the hash map is iterated.
-/

namespace Duvm.Daemon

/-- Metadata tracked per page. -/
structure PageMeta where
  handle : PageHandle
  backendId : UInt8
  tier : Tier
  accessCount : UInt32
  lastAccess : ℕ
  flags : PageFlags
deriving DecidableEq

/-- Backend capacity snapshot for tier selection. -/
structure BackendCapacity where
  backendId : UInt8
  tier : Tier
  totalPages : UInt64
  usedPages : UInt64
  healthy : Bool

/-- True if this backend has room for at least one more page. -/
def BackendCapacity.hasCapacity (capacity : BackendCapacity) : Bool :=
  capacity.healthy && capacity.usedPages < capacity.totalPages

abbrev TrackedPage := Σ _ : UInt64, PageMeta

structure CallEnv where
  now : ℕ
  iter : IterOrder TrackedPage

/-- The policy engine tracks page metadata and makes placement decisions. -/
structure PolicyEngine where
  pages : HashMap UInt64 PageMeta

namespace PolicyEngine

def new : PolicyEngine := ⟨∅⟩

def recordStore (policy : PolicyEngine) (env : CallEnv) (offset : UInt64) (handle : PageHandle)
    (backendId : UInt8) (tier : Tier) : PolicyEngine :=
  ⟨policy.pages.insert offset
    { handle, backendId, tier, accessCount := 0, lastAccess := env.now, flags := .empty }⟩

/-- `u32::saturating_add(1)`. -/
def saturatingSucc (count : UInt32) : UInt32 :=
  if count = UInt32.ofNat (2 ^ 32 - 1) then count else count + 1

def recordLoad (policy : PolicyEngine) (env : CallEnv) (offset : UInt64) : PolicyEngine :=
  match policy.pages.lookup offset with
  | none => policy
  | some entry =>
      ⟨policy.pages.replace offset
        { entry with accessCount := saturatingSucc entry.accessCount, lastAccess := env.now }⟩

def lookup (policy : PolicyEngine) (offset : UInt64) : Option PageMeta :=
  policy.pages.lookup offset

def remove (policy : PolicyEngine) (offset : UInt64) : Option PageMeta × PolicyEngine :=
  (policy.pages.lookup offset, ⟨policy.pages.erase offset⟩)

def tierPreference : List Tier := [.compressed, .cxl, .rdma, .gpu, .localDram]

/-- The first tier, in the order of preference, which has a healthy backend with room. -/
def selectTier (capacities : List BackendCapacity) : Option Tier :=
  tierPreference.find? fun tier =>
    !(capacities.filter fun capacity => capacity.tier = tier && capacity.hasCapacity).isEmpty

/-- The order of `(last_access, access_count)`. -/
def usedBefore (left right : ℕ × UInt32) : Bool :=
  left.1 < right.1 || (left.1 == right.1 && left.2 < right.2)

/-- The pages of a backend which may be evicted, in iteration order. -/
def evictable (policy : PolicyEngine) (env : CallEnv) (backendId : UInt8) : List TrackedPage :=
  (env.iter.order policy.pages.entries).filter fun page =>
    page.2.backendId = backendId && !page.2.flags.contains .PINNED

/-- The least recently used page of a backend which is not pinned. -/
def findEvictionCandidate (policy : PolicyEngine) (env : CallEnv) (backendId : UInt8) :
    Option UInt64 :=
  (Selection.minBy usedBefore (fun page => (page.2.lastAccess, page.2.accessCount))
    (policy.evictable env backendId)).map Sigma.fst

/-- Up to `count` pages of a backend which are not pinned, least recently used first. -/
def findEvictionCandidates (policy : PolicyEngine) (env : CallEnv) (backendId : UInt8)
    (count : ℕ) : List UInt64 :=
  (Selection.ranked usedBefore (fun page => (page.2.lastAccess, page.2.accessCount)) count
    (policy.evictable env backendId)).map Sigma.fst

/-- Number of tracked pages in a specific backend. -/
def pagesInBackend (policy : PolicyEngine) (backendId : UInt8) : ℕ :=
  (policy.pages.entries.filter fun page => page.2.backendId = backendId).length

def setFlag (policy : PolicyEngine) (offset : UInt64) (flag : PageFlags) : PolicyEngine :=
  match policy.pages.lookup offset with
  | none => policy
  | some entry =>
      ⟨policy.pages.replace offset { entry with flags := entry.flags.insert flag }⟩

def clearFlag (policy : PolicyEngine) (offset : UInt64) (flag : PageFlags) : PolicyEngine :=
  match policy.pages.lookup offset with
  | none => policy
  | some entry =>
      ⟨policy.pages.replace offset { entry with flags := entry.flags.remove flag }⟩

/-- At most an entry is changed in place, but not where its page is. -/
inductive Retouched (policy : PolicyEngine) : PolicyEngine → Prop
  | untouched : Retouched policy policy
  | replaced (offset : UInt64) (entry updated : PageMeta)
      (listed : policy.lookup offset = some entry)
      (sameHandle : updated.handle = entry.handle)
      (sameBackend : updated.backendId = entry.backendId) :
      Retouched policy ⟨policy.pages.replace offset updated⟩

theorem retouched_recordLoad (policy : PolicyEngine) (env : CallEnv) (offset : UInt64) :
    policy.Retouched (policy.recordLoad env offset) := by
  unfold recordLoad
  cases listed : policy.pages.lookup offset with
  | none => exact .untouched
  | some entry => exact .replaced offset entry _ listed rfl rfl

theorem retouched_setFlag (policy : PolicyEngine) (offset : UInt64) (flag : PageFlags) :
    policy.Retouched (policy.setFlag offset flag) := by
  unfold setFlag
  cases listed : policy.pages.lookup offset with
  | none => exact .untouched
  | some entry => exact .replaced offset entry _ listed rfl rfl

theorem retouched_clearFlag (policy : PolicyEngine) (offset : UInt64) (flag : PageFlags) :
    policy.Retouched (policy.clearFlag offset flag) := by
  unfold clearFlag
  cases listed : policy.pages.lookup offset with
  | none => exact .untouched
  | some entry => exact .replaced offset entry _ listed rfl rfl

end PolicyEngine

end Duvm.Daemon
