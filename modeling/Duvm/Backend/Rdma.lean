import Duvm.Backend.Trait
import Duvm.Library.Transition
import Mathlib.Data.List.Nodup

/-!
# The RDMA backend

`RdmaBackend` of `duvm-backend-rdma/src/lib.rs` hands out the value of its usage
counter as the slot of a new page and decrements the counter when a page is
freed, whichever slot the page had. The remote region is part of the backend's
state here; an RDMA WRITE or READ copies one page to or from the address which
`rdma_transfer` is given, a 64-bit word, and always completes. The registered
local buffer carries the page during a transfer only.

Slots are exclusive as long as no allocation finds its slot taken. Freeing in
the reverse order of allocation ensures that, freeing in any other order need
not.
-/

namespace Duvm

/-- What the backend knows of its connection, with the memory at the other end. -/
structure RdmaState where
  remoteAddr : UInt64
  remote : ByteMemory

structure RdmaBackend where
  backendId : UInt8
  maxPages : UInt64
  pagesUsed : UInt64
  state : Option RdmaState

namespace RdmaBackend

/-- The offset of a page in the remote region, `offset * PAGE_SIZE` in 64 bits. -/
def remoteOffset (offset : UInt64) : UInt64 := offset * UInt64.ofNat PAGE_SIZE

/-- `rdma_transfer` for an RDMA WRITE of the local buffer. -/
def rdmaWrite (state : RdmaState) (offset : UInt64) (localBuf : PageBuffer) : RdmaState :=
  { state with
    remote := state.remote.write (state.remoteAddr + offset).toNat localBuf.toList }

/-- `rdma_transfer` for an RDMA READ into the local buffer. -/
def rdmaRead (state : RdmaState) (offset : UInt64) : PageBuffer :=
  readPage state.remote (state.remoteAddr + offset).toNat

def allocPage (backend : RdmaBackend) : Outcome PageHandle × RdmaBackend :=
  if backend.pagesUsed ≥ backend.maxPages then (.err (.rdmaFull backend.maxPages), backend)
  else
    let counted := { backend with pagesUsed := backend.pagesUsed + 1 }
    match PageHandle.new backend.backendId backend.pagesUsed with
    | some handle => (.ok handle, counted)
    | none => (.panic, counted)

def freePage (backend : RdmaBackend) (_handle : PageHandle) :
    Except DuvmError Unit × RdmaBackend :=
  (.ok (), { backend with pagesUsed := backend.pagesUsed - 1 })

def storePage (backend : RdmaBackend) (handle : PageHandle) (data : PageBuffer) :
    Except DuvmError Unit × RdmaBackend :=
  match backend.state with
  | none => (.error .rdmaNotInitialized, backend)
  | some state =>
      let written := rdmaWrite state (remoteOffset handle.offset) data
      (.ok (), { backend with state := some written })

def loadPage (backend : RdmaBackend) (handle : PageHandle) :
    Except DuvmError PageBuffer × RdmaBackend :=
  match backend.state with
  | none => (.error .rdmaNotInitialized, backend)
  | some state => (.ok (rdmaRead state (remoteOffset handle.offset)), backend)

instance : DuvmBackend RdmaBackend where
  tier _ := .rdma
  allocPage := allocPage
  freePage := freePage
  storePage := storePage
  loadPage := loadPage
  capacity backend := (backend.maxPages, backend.pagesUsed)
  isHealthy backend := backend.state.isSome

/-- Two slots with different remote offsets do not overlap. -/
theorem remote_disjoint {base left right : UInt64}
    (different : remoteOffset left ≠ remoteOffset right) :
    (base + remoteOffset left).toNat + PAGE_SIZE ≤ (base + remoteOffset right).toNat ∨
      (base + remoteOffset right).toNat + PAGE_SIZE ≤ (base + remoteOffset left).toNat := by
  have apart : (remoteOffset left).toNat ≠ (remoteOffset right).toNat :=
    fun same => different (UInt64.toNat_inj.mp same)
  have size : (UInt64.ofNat PAGE_SIZE).toNat = 4096 := rfl
  have page : PAGE_SIZE = 4096 := rfl
  rw [remoteOffset, remoteOffset, UInt64.toNat_mul, UInt64.toNat_mul, size] at apart
  rw [remoteOffset, remoteOffset, UInt64.toNat_add, UInt64.toNat_add, UInt64.toNat_mul,
    UInt64.toNat_mul, size, page]
  have := base.toNat_lt
  omega

end RdmaBackend

/-- The backend with its client's books: the live handles, oldest first, and the data last
stored through each of them. -/
structure RdmaClient where
  backend : RdmaBackend
  live : List PageHandle
  contents : PageHandle → Option PageBuffer

inductive RdmaCall where
  | allocPage
  | freePage (handle : PageHandle)
  | storePage (handle : PageHandle) (data : PageBuffer)
  | loadPage (handle : PageHandle)

namespace RdmaClient

open Function (update)
open RdmaBackend (remoteOffset)

def start (backend : RdmaBackend) : RdmaClient := ⟨backend, [], fun _ => none⟩

/-- A call of the client, which uses live handles only; a panic ends the run. -/
def step (client : RdmaClient) : RdmaCall → Option RdmaClient
  | .allocPage =>
      match client.backend.allocPage with
      | (.ok handle, backend) =>
          some ⟨backend, client.live ++ [handle], update client.contents handle none⟩
      | (.err _, backend) => some { client with backend := backend }
      | (.panic, _) => none
  | .freePage handle =>
      if handle ∈ client.live then
        some ⟨(client.backend.freePage handle).2, client.live.erase handle,
          update client.contents handle none⟩
      else none
  | .storePage handle data =>
      if handle ∈ client.live then
        match client.backend.storePage handle data with
        | (.ok (), backend) =>
            some { client with
              backend := backend, contents := update client.contents handle (some data) }
        | (.error _, backend) => some { client with backend := backend }
      else none
  | .loadPage handle =>
      if handle ∈ client.live then
        some { client with backend := (client.backend.loadPage handle).2 }
      else none

/-- Live handles have different offsets, and each one loads what was stored through it. -/
structure SlotsExclusive (client : RdmaClient) : Prop where
  distinct : (client.live.map PageHandle.offset).Nodup
  loads : ∀ handle ∈ client.live, ∀ data, client.contents handle = some data →
    (client.backend.loadPage handle).1 = .ok data

/-- No page is allocated while a live handle occupies the slot which the counter names. -/
def SlotFree (client : RdmaClient) (call : RdmaCall) : Prop :=
  call = .allocPage → ∀ handle ∈ client.live,
    remoteOffset handle.offset ≠ remoteOffset client.backend.pagesUsed

/-- Live handles have remote pages of their own, which hold what was stored. -/
structure Separated (client : RdmaClient) : Prop where
  distinct : (client.live.map fun handle => remoteOffset handle.offset).Nodup
  held : ∀ handle ∈ client.live, ∀ data, client.contents handle = some data →
    ∃ state, client.backend.state = some state ∧
      RdmaBackend.rdmaRead state (remoteOffset handle.offset) = data

variable {client : RdmaClient}

theorem Separated.slotsExclusive (separated : client.Separated) :
    client.SlotsExclusive := by
  constructor
  · have mapped : (client.live.map fun handle => remoteOffset handle.offset) =
        (client.live.map PageHandle.offset).map remoteOffset := by
      rw [List.map_map]
      rfl
    have distinct := separated.distinct
    rw [mapped] at distinct
    exact distinct.of_map remoteOffset
  · intro handle isLive data isStored
    rcases separated.held handle isLive data isStored with ⟨state, isState, isData⟩
    rw [RdmaBackend.loadPage, isState, ← isData]

theorem Separated.alloc (separated : client.Separated) {handle : PageHandle}
    {backend : RdmaBackend}
    (fresh : ∀ other ∈ client.live,
      remoteOffset other.offset ≠ remoteOffset client.backend.pagesUsed)
    (allocated : client.backend.allocPage = (.ok handle, backend)) :
    Separated ⟨backend, client.live ++ [handle], update client.contents handle none⟩ := by
  unfold RdmaBackend.allocPage at allocated
  split at allocated
  · simp at allocated
  · simp only at allocated
    split at allocated
    · next created isNew =>
        simp only [Prod.mk.injEq, Outcome.ok.injEq] at allocated
        rcases allocated with ⟨rfl, rfl⟩
        have slot : created.offset = client.backend.pagesUsed := PageHandle.offset_of_new isNew
        constructor
        · rw [List.map_append, List.nodup_append]
          refine ⟨separated.distinct, List.nodup_singleton _, ?_⟩
          intro left oldSlot right newSlot
          rcases List.mem_map.mp oldSlot with ⟨other, isLive, rfl⟩
          simp only [List.map_cons, List.map_nil, List.mem_singleton] at newSlot
          rw [newSlot, slot]
          exact fresh other isLive
        · intro other isLive data isStored
          by_cases same : other = created
          · subst same
            simp at isStored
          · simp only [Function.update_of_ne same] at isStored
            rcases List.mem_append.mp isLive with old | new
            · exact separated.held other old data isStored
            · exact absurd (List.mem_singleton.mp new) same
    · simp at allocated

theorem Separated.free (separated : client.Separated) (handle : PageHandle) :
    Separated ⟨(client.backend.freePage handle).2, client.live.erase handle,
      update client.contents handle none⟩ := by
  constructor
  · exact separated.distinct.sublist (List.erase_sublist.map _)
  · intro other isLive data isStored
    by_cases same : other = handle
    · subst same
      simp at isStored
    · simp only [Function.update_of_ne same] at isStored
      exact separated.held other (List.mem_of_mem_erase isLive) data isStored

theorem Separated.store (separated : client.Separated) {handle : PageHandle} {data : PageBuffer}
    {backend : RdmaBackend} (isLive : handle ∈ client.live)
    (stored : client.backend.storePage handle data = (.ok (), backend)) :
    Separated { client with
      backend := backend, contents := update client.contents handle (some data) } := by
  unfold RdmaBackend.storePage at stored
  split at stored
  · simp at stored
  · next state isState =>
      simp only [Prod.mk.injEq, true_and] at stored
      subst stored
      refine ⟨separated.distinct, ?_⟩
      intro other otherLive found isStored
      refine ⟨_, rfl, ?_⟩
      by_cases same : other = handle
      · subst same
        simp only [Function.update_self, Option.some.injEq] at isStored
        subst isStored
        exact readPage_write_self _ _ _
      · simp only [Function.update_of_ne same] at isStored
        rcases separated.held other otherLive found isStored with ⟨before, isBefore, isFound⟩
        have sameState : before = state := Option.some.inj (isBefore.symm.trans isState)
        subst sameState
        have apart : remoteOffset other.offset ≠ remoteOffset handle.offset := by
          intro equal
          exact same (List.inj_on_of_nodup_map separated.distinct otherLive isLive equal)
        rw [← isFound]
        apply readPage_write_of_disjoint
        rw [PageBuffer.length_toList]
        exact RdmaBackend.remote_disjoint apart

theorem loadPage_snd (backend : RdmaBackend) (handle : PageHandle) :
    (backend.loadPage handle).2 = backend := by
  unfold RdmaBackend.loadPage
  split <;> rfl

theorem Separated.stepped {next : RdmaClient} {call : RdmaCall} (separated : client.Separated)
    (free : client.SlotFree call) (stepped : client.step call = some next) : next.Separated := by
  cases call with
  | allocPage =>
      simp only [step] at stepped
      split at stepped
      · next handle backend allocated =>
          simp only [Option.some.injEq] at stepped
          subst stepped
          exact separated.alloc (free rfl) allocated
      · next error backend refused =>
          simp only [Option.some.injEq] at stepped
          subst stepped
          have unchanged : backend = client.backend := by
            unfold RdmaBackend.allocPage at refused
            split at refused
            · exact (congrArg Prod.snd refused).symm
            · simp only at refused
              split at refused <;> simp at refused
          subst unchanged
          exact separated
      · simp at stepped
  | freePage handle =>
      simp only [step, Option.ite_none_right_eq_some, Option.some.injEq] at stepped
      rcases stepped with ⟨_, rfl⟩
      exact separated.free handle
  | storePage handle data =>
      simp only [step, Option.ite_none_right_eq_some] at stepped
      rcases stepped with ⟨isLive, stepped⟩
      split at stepped
      · next backend stored =>
          simp only [Option.some.injEq] at stepped
          subst stepped
          exact separated.store isLive stored
      · next error backend refused =>
          simp only [Option.some.injEq] at stepped
          subst stepped
          have unchanged : backend = client.backend := by
            unfold RdmaBackend.storePage at refused
            split at refused
            · exact (congrArg Prod.snd refused).symm
            · cases refused
          subst unchanged
          exact separated
  | loadPage handle =>
      simp only [step, Option.ite_none_right_eq_some, Option.some.injEq] at stepped
      rcases stepped with ⟨_, rfl⟩
      rw [loadPage_snd]
      exact separated

/-- Slots are exclusive throughout every run in which no allocation finds its slot taken. -/
theorem slotsExclusive_of_slotFree (backend : RdmaBackend) (calls : List RdmaCall)
    (free : Transition.Along step SlotFree (start backend) calls) :
    Transition.Throughout step SlotsExclusive (start backend) calls := by
  have separated : Transition.Throughout step Separated (start backend) calls := by
    refine Transition.throughout_of_along ⟨List.nodup_nil, nofun⟩ ?_ free
    intro client call next separated slotFree stepped
    exact separated.stepped slotFree stepped
  intro before reached isPrefix led
  exact (separated before reached isPrefix led).slotsExclusive

/-- A backend with room for four pages in a region at address 0. -/
def fourSlots : RdmaBackend := ⟨1, 4, 0, some ⟨0, fun _ => 0⟩⟩

/-- The handle of a slot of `fourSlots`. -/
def slotHandle (slot : UInt64) : PageHandle := ⟨(1 : UInt64) <<< 56 ||| slot⟩

/-- Pages freed in the reverse order of their allocation. -/
def stackOrder : List RdmaCall :=
  [.allocPage, .allocPage, .storePage (slotHandle 0) (.filled 1), .freePage (slotHandle 1),
    .allocPage, .storePage (slotHandle 1) (.filled 2)]

theorem stackOrder_slotsExclusive :
    ∃ final, Transition.run step (start fourSlots) stackOrder = some final ∧
      final.live = [slotHandle 0, slotHandle 1] ∧
      Transition.Throughout step SlotsExclusive (start fourSlots) stackOrder := by
  refine ⟨_, rfl, rfl, slotsExclusive_of_slotFree fourSlots stackOrder ?_⟩
  refine ⟨fun _ => by decide, fun first ran => ?_⟩
  rcases Option.some.inj ran with rfl
  refine ⟨fun _ => by decide, fun second ran => ?_⟩
  rcases Option.some.inj ran with rfl
  refine ⟨nofun, fun stored ran => ?_⟩
  rcases Option.some.inj ran with rfl
  refine ⟨nofun, fun freed ran => ?_⟩
  rcases Option.some.inj ran with rfl
  refine ⟨fun _ => by decide, fun third ran => ?_⟩
  exact ⟨nofun, fun _ _ => trivial⟩

/-- The older of two pages is freed before a third one is allocated. -/
def queueOrder : List RdmaCall :=
  [.allocPage, .allocPage, .freePage (slotHandle 0), .allocPage]

/-- The third page is given the slot of the second one, which is still live. -/
theorem slot_shared_after_free :
    ∃ final, Transition.run step (start fourSlots) queueOrder = some final ∧
      final.live = [slotHandle 1, slotHandle 1] ∧ ¬ final.SlotsExclusive := by
  refine ⟨_, rfl, rfl, fun exclusive => ?_⟩
  exact absurd exclusive.distinct (by decide)

end RdmaClient

end Duvm
