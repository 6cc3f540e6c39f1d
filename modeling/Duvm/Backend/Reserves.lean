import Duvm.Backend.Tcp
import Mathlib.Data.List.Perm.Basic

/-!
# Pages which a memory server holds and counts

A memory server counts a page when it gives out an offset, and holds it from the
`STORE` on. Its client stores at most one page at each offset which it was given,
on the connection over which it was given the offset. Then the server never holds
more pages than it counts, with every `STORE` which is still to be served as a
page held.
-/

namespace Duvm

open Memserver (PageStore)
open Tcp (Operation allocReply storeReply loadReply freeReply)

/-- The number of pages which a request can add. -/
def Tcp.Operation.cost : Operation → ℕ
  | .store .. => 1
  | _ => 0

/-- What a request adds is paid for by the spare count. -/
theorem reserve_after (operation : Operation) {store : PageStore} {spare : ℕ}
    (reserve : store.len + operation.cost + spare ≤ store.used.toNat) :
    (operation.after store).len + spare ≤ (operation.after store).used.toNat := by
  cases operation with
  | alloc =>
      simp only [Operation.after]
      by_cases room : store.used < store.maxPages
      · have counted := PageStore.toNat_used_add_one room
        rw [PageStore.allocOffset_of_lt room]
        change store.len + spare ≤ (store.used + 1).toNat
        rw [counted]
        exact reserve.trans (Nat.le_succ _)
      · rw [PageStore.allocOffset_of_le (UInt64.not_lt.mp room)]
        exact reserve
  | store handle data =>
      have grows : (store.store handle.offset data).2.len ≤ store.len + 1 := by
        by_cases present : handle.offset ∈ store.pages
        · rw [PageStore.len_store_of_mem data present]
          exact Nat.le_succ _
        · by_cases room : store.len < store.maxPages.toNat
          · rw [PageStore.len_store_of_room data present room]
          · rw [PageStore.store, if_pos ⟨Nat.not_lt.mp room, present⟩]
            exact Nat.le_succ _
      simp only [Operation.after, Operation.cost, PageStore.used_store] at reserve ⊢
      omega
  | load handle => exact reserve
  | free handle =>
      simp only [Operation.after]
      by_cases present : handle.offset ∈ store.pages
      · have shrinks := PageStore.len_free_of_mem present
        have positive : 0 < store.used.toNat := by
          simp only [Operation.cost] at reserve
          omega
        have counted := PageStore.toNat_used_sub_one positive
        rw [PageStore.free_of_mem present] at shrinks ⊢
        simp only [Operation.cost] at reserve
        change _ ≤ (store.used - 1).toNat
        omega
      · rw [PageStore.free_of_notMem present]
        exact reserve

/-- An offset which is given out is counted. -/
theorem reserve_allocated {store : PageStore} {spare : ℕ} {offset : UInt64}
    (reserve : store.len + spare ≤ store.used.toNat) (given : allocReply store = .ok offset) :
    store.allocOffset.2.len + (spare + 1) ≤ store.allocOffset.2.used.toNat := by
  have room : store.used < store.maxPages := by
    apply UInt64.not_le.mp
    intro full
    rw [allocReply, PageStore.allocOffset_of_le full] at given
    cases given
  have counted := PageStore.toNat_used_add_one room
  rw [PageStore.allocOffset_of_lt room]
  change store.len + (spare + 1) ≤ (store.used + 1).toNat
  omega

namespace MemoryServer

variable {server next : MemoryServer} {spare : ℕ}

/-- The pages which the requests of dropped connections can add. -/
def pending (server : MemoryServer) : ℕ := (server.stragglers.map Operation.cost).sum

/-- The server holds fewer pages than it counts, by the spare count at least. -/
def Reserve (server : MemoryServer) (spare : ℕ) : Prop :=
  server.store.len + server.pending + spare ≤ server.store.used.toNat

theorem Reserve.of_le {fewer : ℕ} (reserve : server.Reserve spare) (le : fewer ≤ spare) :
    server.Reserve fewer := by
  unfold Reserve at reserve ⊢
  omega

theorem Reserve.serve {operation : Operation} (reserve : server.Reserve (operation.cost + spare)) :
    (server.serve operation).Reserve spare := by
  unfold Reserve at reserve ⊢
  have before : server.store.len + operation.cost + (server.pending + spare) ≤
      server.store.used.toNat := by omega
  have after := reserve_after operation before
  rw [← Nat.add_assoc] at after
  exact after

theorem Reserve.delay {operation : Operation} (reserve : server.Reserve (operation.cost + spare)) :
    (server.delay operation).Reserve spare := by
  unfold Reserve pending at reserve ⊢
  simp only [MemoryServer.delay, List.map_append, List.map_cons, List.map_nil, List.sum_append,
    List.sum_cons, List.sum_nil]
  omega

theorem Reserve.serveStraggler (reserve : server.Reserve spare) (index : ℕ) :
    (server.serveStraggler index).Reserve spare := by
  unfold MemoryServer.serveStraggler
  cases listed : server.stragglers[index]? with
  | none => exact reserve
  | some operation =>
      apply Reserve.serve
      rcases List.getElem?_eq_some_iff.mp listed with ⟨inRange, rfl⟩
      have same := ((List.getElem_cons_eraseIdx_perm inRange).map Operation.cost).sum_eq
      rw [List.map_cons, List.sum_cons] at same
      unfold Reserve pending at reserve ⊢
      simp only
      omega

theorem reserve_restart (server : MemoryServer) : server.restart.Reserve 0 :=
  Nat.zero_le _

theorem lifetime_incidents (incidents : List Incident) :
    server.lifetime ≤ (incidents.foldl incident server).lifetime := by
  induction incidents generalizing server with
  | nil => exact Nat.le_refl _
  | cons incident rest ih =>
      refine Nat.le_trans ?_ ih
      cases incident with
      | restart => exact Nat.le_succ _
      | straggler index =>
          simp only [MemoryServer.incident, MemoryServer.serveStraggler]
          split <;> exact Nat.le_refl _

/-- What is spare stays so until the server is restarted. -/
theorem Reserve.incidents (reserve : server.Reserve spare) (incidents : List Incident)
    (unbroken : spare = 0 ∨ (incidents.foldl incident server).lifetime = server.lifetime) :
    (incidents.foldl incident server).Reserve spare := by
  induction incidents generalizing server with
  | nil => exact reserve
  | cons incident rest ih =>
      cases incident with
      | restart =>
          rcases unbroken with rfl | same
          · exact ih (reserve_restart server) (.inl rfl)
          · have grows : server.restart.lifetime ≤ _ := lifetime_incidents rest
            have restarted : server.restart.lifetime = server.lifetime + 1 := rfl
            simp only [List.foldl_cons, MemoryServer.incident] at same
            omega
      | straggler index =>
          have sameLifetime : (server.serveStraggler index).lifetime = server.lifetime := by
            unfold MemoryServer.serveStraggler
            split <;> rfl
          apply ih (reserve.serveStraggler index)
          rw [sameLifetime]
          exact unbroken

section Exchanged

variable {Answer : Type} {stream : Option ℕ} {operation : Operation}
  {reply : PageStore → Except DuvmError Answer} {result : Except DuvmError Answer}

theorem Reserve.exchanged (reserve : server.Reserve 0)
    (exchanged : TcpLink.Exchanged server stream operation reply result next)
    (paid : (∀ opened, stream = some opened → opened = server.lifetime) →
      server.Reserve operation.cost) : next.Reserve 0 := by
  cases exchanged with
  | lost => exact reserve
  | answered live => exact Reserve.serve (paid live)
  | replyLost live => exact Reserve.serve (paid live)
  | delayed live => exact Reserve.delay (paid live)

theorem Reserve.allocated {offset : UInt64} (reserve : server.Reserve 0)
    (exchanged : TcpLink.Exchanged server stream .alloc allocReply (.ok offset) next) :
    next.Reserve 1 ∧ next.lifetime = server.lifetime := by
  generalize answer : Except.ok offset = result at exchanged
  cases exchanged with
  | lost => cases answer
  | replyLost _ => cases answer
  | delayed _ => cases answer
  | answered _ => exact ⟨reserve_allocated reserve answer.symm, rfl⟩

end Exchanged

end MemoryServer

namespace TcpLink

variable {link : TcpLink}

/-- The server of the link counts the pages which it holds. -/
def Counts (link : TcpLink) : Prop := link.server.Reserve 0

theorem Counts.upcoming (counts : link.Counts) : link.upcoming.Reserve 0 :=
  MemoryServer.Reserve.incidents counts link.fate.incidents (.inl rfl)

/-- A use of the connection for anything but a `STORE`. -/
theorem Counts.withStream {Answer : Type} (counts : link.Counts) {operation : Operation}
    (free : operation.cost = 0) (reply : PageStore → Except DuvmError Answer) :
    (link.withStream operation reply).2.Counts := by
  apply counts.upcoming.exchanged (withStream_spec link operation reply).1
  intro _
  rw [free]
  exact counts.upcoming

theorem Counts.freePage (counts : link.Counts) (handle : PageHandle) :
    (link.freePage handle).2.Counts := by
  have used : (link.withStream (.free handle) (freeReply · handle)).2.Counts :=
    counts.withStream rfl _
  unfold TcpLink.freePage
  revert used
  cases link.withStream (.free handle) (freeReply · handle) with
  | mk result next =>
      intro used
      cases result with
      | error error => exact used
      | ok answer => exact used

theorem Counts.loadPage (counts : link.Counts) (handle : PageHandle) :
    (link.loadPage handle).2.Counts :=
  counts.withStream rfl _

theorem Counts.denied (counts : link.Counts) {error : DuvmError} {after : TcpLink}
    (refused : link.allocPage = (.err error, after)) : after.Counts := by
  have busy : (link.setUsed (link.backend.pagesUsed + 1)).Counts := counts
  have used : ((link.setUsed (link.backend.pagesUsed + 1)).withStream .alloc allocReply).2.Counts :=
    busy.withStream rfl allocReply
  unfold TcpLink.allocPage at refused
  split at refused
  · rcases refused with ⟨⟩
    exact counts
  · split at refused
    · next answered =>
        rw [answered] at used
        rcases refused with ⟨⟩
        exact used
    · split at refused
      · cases refused
      · cases refused

/-- The server counts a page more than it holds, and the stream goes to it. -/
structure Prepaid (link : TcpLink) : Prop where
  reserve : link.server.Reserve 1
  stream : link.backend.conn.stream = some link.server.lifetime

theorem Counts.answered (counts : link.Counts) {offset : UInt64} {after : TcpLink}
    (answered : link.withStream .alloc allocReply = (.ok offset, after)) : after.Prepaid := by
  rcases withStream_spec link .alloc allocReply with ⟨exchanged, kept, stays⟩
  rw [answered] at exchanged kept stays
  rcases stays offset rfl with ⟨opened, isOpen⟩
  rcases kept opened isOpen with ⟨-, live, -⟩
  rcases counts.upcoming.allocated exchanged with ⟨reserve, same⟩
  exact ⟨reserve, isOpen.trans (congrArg some (live.trans same.symm))⟩

theorem Counts.allocated (counts : link.Counts) {handle : PageHandle} {after : TcpLink}
    (allocated : link.allocPage = (.ok handle, after)) : after.Prepaid := by
  have busy : (link.setUsed (link.backend.pagesUsed + 1)).Counts := counts
  unfold TcpLink.allocPage at allocated
  split at allocated
  · cases allocated
  · split at allocated
    · cases allocated
    · next answered =>
        split at allocated
        · rcases allocated with ⟨⟩
          exact busy.answered answered
        · cases allocated

theorem Prepaid.storePage (prepaid : link.Prepaid) (handle : PageHandle) (data : PageBuffer) :
    (link.storePage handle data).2.Counts := by
  apply (MemoryServer.Reserve.incidents (prepaid.reserve.of_le (Nat.zero_le 1)) _
    (.inl rfl)).exchanged (withStream_spec link _ _).1
  intro live
  apply prepaid.reserve.incidents
  exact .inr (live _ prepaid.stream).symm

end TcpLink

end Duvm
