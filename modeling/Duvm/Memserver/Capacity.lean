import Duvm.Library.Transition
import Duvm.Memserver.PageStore

/-!
# Occupancy of the memory server

Requests of any number of connections reach the shared store one after the
other, in any order and with any contents: the server does not pair `ALLOC`,
`STORE` and `FREE`. The two records of occupancy agree along a run exactly when
every `STORE` which brings in a new page fills a reservation made by an earlier
`ALLOC`, that is, arrives while fewer pages are stored than are counted.
-/

namespace Duvm.Memserver

open Transition

/-- A request as `handle_client` decodes it from a connection. -/
inductive WireRequest where
  | alloc
  | store (offset : UInt64) (data : PageBuffer)
  | load (offset : UInt64)
  | free (offset : UInt64)
  | status
  | unknown (op : UInt8)

/-- What the server answers, before it is put on the wire. -/
inductive WireResponse where
  | alloc (offset : Option UInt64)
  | store (accepted : Bool)
  | load (data : Option PageBuffer)
  | free (released : Bool)
  | status (used total : UInt64)
  | unknown

/-- The operation of the page store behind each request. -/
def WireRequest.apply (store : PageStore) : WireRequest → WireResponse × PageStore
  | .alloc => (.alloc store.allocOffset.1, store.allocOffset.2)
  | .store offset data => (.store (store.store offset data).1, (store.store offset data).2)
  | .load offset => (.load (store.load offset), store)
  | .free offset => (.free (store.free offset).1, (store.free offset).2)
  | .status => (.status store.usedPages store.maxPages, store)
  | .unknown _ => (.unknown, store)

/-- A request arriving on one of the connections. -/
structure Arrival where
  connection : ℕ
  request : WireRequest

def serve (store : PageStore) (arrival : Arrival) : Option PageStore :=
  some (arrival.request.apply store).2

namespace PageStore

/-- The stored pages are covered by the counter, and the counter by the limit. -/
def Accounted (store : PageStore) : Prop :=
  store.len ≤ store.used.toNat ∧ store.used ≤ store.maxPages

/-- Serving the request does not drop the counter below zero. -/
def KeepsCounter (store : PageStore) (arrival : Arrival) : Prop :=
  ∀ offset, arrival.request = .free offset → offset ∈ store.pages → 0 < store.used

/-- A request which brings in a new page finds an unfilled reservation. -/
def FillsReservation (store : PageStore) (arrival : Arrival) : Prop :=
  ∀ offset data, arrival.request = .store offset data → offset ∉ store.pages →
    store.len < store.maxPages.toNat → store.len < store.used.toNat

theorem accounted_new (maxPages : UInt64) : (new maxPages).Accounted := by
  constructor
  · simp
  · exact UInt64.le_iff_toNat_le.mpr (Nat.zero_le _)

variable {store : PageStore}

theorem Accounted.keepsCounter (accounted : store.Accounted) (arrival : Arrival) :
    store.KeepsCounter arrival := by
  intro offset _ present
  have stored : 0 < store.len := HashMap.size_pos_of_mem present
  have counted := accounted.1
  exact UInt64.lt_iff_toNat_lt.mpr (by simp; omega)

theorem Accounted.allocOffset (accounted : store.Accounted) :
    store.allocOffset.2.Accounted := by
  rcases accounted with ⟨counted, limited⟩
  by_cases room : store.used < store.maxPages
  · rw [allocOffset_of_lt room]
    have bumped := toNat_used_add_one room
    have below := UInt64.lt_iff_toNat_lt.mp room
    constructor
    · change store.len ≤ (store.used + 1).toNat
      omega
    · apply UInt64.le_iff_toNat_le.mpr
      change (store.used + 1).toNat ≤ store.maxPages.toNat
      omega
  · rw [allocOffset_of_le (by simpa using room)]
    exact ⟨counted, limited⟩

theorem Accounted.free (accounted : store.Accounted) (offset : UInt64) :
    (store.free offset).2.Accounted := by
  rcases accounted with ⟨counted, limited⟩
  by_cases present : offset ∈ store.pages
  · have shrunk := len_free_of_mem present
    have positive : 0 < store.used.toNat := by omega
    have dropped := toNat_used_sub_one positive
    have below := UInt64.le_iff_toNat_le.mp limited
    rw [free_of_mem present] at shrunk ⊢
    constructor
    · change _ ≤ (store.used - 1).toNat
      omega
    · apply UInt64.le_iff_toNat_le.mpr
      change (store.used - 1).toNat ≤ store.maxPages.toNat
      omega
  · rw [free_of_notMem present]
    exact ⟨counted, limited⟩

/-- A `STORE` keeps the accounts exactly when a page it brings in was reserved. -/
theorem Accounted.store_iff (accounted : store.Accounted) (offset : UInt64) (data : PageBuffer) :
    (store.store offset data).2.Accounted ↔
      (offset ∉ store.pages → store.len < store.maxPages.toNat →
        store.len < store.used.toNat) := by
  rcases accounted with ⟨counted, limited⟩
  simp only [Accounted, used_store, maxPages_store, limited, and_true]
  by_cases present : offset ∈ store.pages
  · simp [len_store_of_mem data present, present, counted]
  by_cases room : store.len < store.maxPages.toNat
  · simp only [len_store_of_room data present room, present, room, not_false_eq_true,
      forall_const]
    omega
  · have refused : store.store offset data = (false, store) := by
      rw [PageStore.store, if_pos ⟨by omega, present⟩]
    simp [refused, room, counted]

/-- One request keeps the accounts exactly when it fills a reservation. -/
theorem Accounted.apply_iff (accounted : store.Accounted) (arrival : Arrival) :
    (arrival.request.apply store).2.Accounted ↔ store.FillsReservation arrival := by
  rcases arrival with ⟨connection, request⟩
  cases request with
  | alloc => simp [WireRequest.apply, FillsReservation, accounted.allocOffset]
  | store offset data =>
      simp only [WireRequest.apply, accounted.store_iff, FillsReservation,
        WireRequest.store.injEq, and_imp]
      constructor
      · rintro fills _ _ rfl rfl
        exact fills
      · intro fills
        exact fills offset data rfl rfl
  | load offset => simp [WireRequest.apply, FillsReservation, accounted]
  | free offset => simp [WireRequest.apply, FillsReservation, accounted.free]
  | status => simp [WireRequest.apply, FillsReservation, accounted]
  | unknown op => simp [WireRequest.apply, FillsReservation, accounted]

end PageStore

/-- Along the arrivals the accounts hold in every state and the counter never wraps. -/
def AccountsHold (maxPages : UInt64) (arrivals : List Arrival) : Prop :=
  Throughout serve PageStore.Accounted (.new maxPages) arrivals ∧
    Along serve PageStore.KeepsCounter (.new maxPages) arrivals

/-- The accounts hold along a run exactly when every new page fills a reservation. -/
theorem accountsHold_iff_fillsReservation (maxPages : UInt64) (arrivals : List Arrival) :
    AccountsHold maxPages arrivals ↔
      Along serve PageStore.FillsReservation (.new maxPages) arrivals := by
  constructor
  · rintro ⟨accounted, -⟩
    apply along_of_forall
    intro before arrival after middle split reached
    have held : middle.Accounted :=
      accounted before middle ⟨arrival :: after, split.symm⟩ reached
    apply (held.apply_iff arrival).mp
    apply accounted (before ++ [arrival])
    · exact ⟨after, by simp [split]⟩
    · simp [run_concat, reached, serve]
  · intro fills
    have accounted : Throughout serve PageStore.Accounted (.new maxPages) arrivals := by
      apply throughout_of_along (PageStore.accounted_new maxPages) _ fills
      intro current arrival next held good served
      simp only [serve, Option.some.injEq] at served
      subst next
      exact (held.apply_iff arrival).mpr good
    refine ⟨accounted, along_of_forall ?_⟩
    intro before arrival after middle split reached
    have held : middle.Accounted :=
      accounted before middle ⟨arrival :: after, split.symm⟩ reached
    exact held.keepsCounter arrival

/-- A page stored without an `ALLOC` and then freed wraps the counter of a fresh server. -/
theorem accounts_broken_by_unreserved_store :
    ¬AccountsHold 1 [⟨0, .store 7 PageBuffer.zero⟩, ⟨0, .free 7⟩] := by
  rintro ⟨accounted, -⟩
  have held := accounted [⟨0, .store 7 PageBuffer.zero⟩] _ ⟨[⟨0, .free 7⟩], rfl⟩ rfl
  exact absurd held.1 (by decide)

end Duvm.Memserver
