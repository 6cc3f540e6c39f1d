import Duvm.Common.Page
import Duvm.Library.HashMap

/-!
# The page store of the memory server

`PageStore` of `duvm-memserver/src/main.rs`: one pool shared by all
connections. Occupancy is kept twice, by the counter `used` which `ALLOC` bumps
and `FREE` drops, and by the map `pages` which `STORE` grows and `FREE`
shrinks. Each method is one atomic step; the counters are wrapping 64-bit
words, as `fetch_add` and `fetch_sub` make them.
-/

namespace Duvm.Memserver

/-- Shared page storage. -/
structure PageStore where
  pages : HashMap UInt64 PageBuffer
  maxPages : UInt64
  used : UInt64
  nextOffset : UInt64

namespace PageStore

def new (maxPages : UInt64) : PageStore :=
  { pages := ∅, maxPages, used := 0, nextOffset := 0 }

def len (store : PageStore) : ℕ := HashMap.size store.pages

def allocOffset (store : PageStore) : Option UInt64 × PageStore :=
  if store.used ≥ store.maxPages then (none, store)
  else
    (some store.nextOffset,
      { store with used := store.used + 1, nextOffset := store.nextOffset + 1 })

/-- Full and this is a new page (not an overwrite): refused. -/
def store (store : PageStore) (offset : UInt64) (data : PageBuffer) : Bool × PageStore :=
  if store.maxPages.toNat ≤ store.len ∧ offset ∉ store.pages then (false, store)
  else (true, { store with pages := store.pages.insert offset data })

def load (store : PageStore) (offset : UInt64) : Option PageBuffer :=
  store.pages.lookup offset

def free (store : PageStore) (offset : UInt64) : Bool × PageStore :=
  if offset ∈ store.pages then
    (true, { store with pages := store.pages.erase offset, used := store.used - 1 })
  else (false, store)

def usedPages (store : PageStore) : UInt64 := store.used

@[simp]
theorem len_new (maxPages : UInt64) : (new maxPages).len = 0 := rfl

variable {store : PageStore} {offset : UInt64}

theorem allocOffset_of_lt (room : store.used < store.maxPages) :
    store.allocOffset = (some store.nextOffset,
      { store with used := store.used + 1, nextOffset := store.nextOffset + 1 }) := by
  rw [allocOffset, if_neg (by simpa using room)]

theorem allocOffset_of_le (full : store.maxPages ≤ store.used) :
    store.allocOffset = (none, store) := by
  rw [allocOffset, if_pos full]

/-- The bumped counter, as a number: it does not wrap below the limit. -/
theorem toNat_used_add_one (room : store.used < store.maxPages) :
    (store.used + 1).toNat = store.used.toNat + 1 := by
  have below : store.used.toNat < store.maxPages.toNat := UInt64.lt_iff_toNat_lt.mp room
  have limit : store.maxPages.toNat < 2 ^ 64 := store.maxPages.toNat_lt
  rw [UInt64.toNat_add, show (1 : UInt64).toNat = 1 from rfl, Nat.mod_eq_of_lt (by omega)]

/-- The dropped counter, as a number: it wraps only at zero. -/
theorem toNat_used_sub_one (positive : 0 < store.used.toNat) :
    (store.used - 1).toNat = store.used.toNat - 1 := by
  have one_le : (1 : UInt64) ≤ store.used := UInt64.le_iff_toNat_le.mpr positive
  rw [UInt64.toNat_sub_of_le _ _ one_le]
  rfl

theorem len_store_of_mem (data : PageBuffer) (present : offset ∈ store.pages) :
    (store.store offset data).2.len = store.len := by
  rw [PageStore.store, if_neg (by simp [present])]
  exact HashMap.size_insert_of_mem data present

theorem len_store_of_room (data : PageBuffer) (absent : offset ∉ store.pages)
    (room : store.len < store.maxPages.toNat) :
    (store.store offset data).2.len = store.len + 1 := by
  rw [PageStore.store, if_neg (by omega)]
  exact HashMap.size_insert_of_notMem data absent

@[simp]
theorem used_store (store : PageStore) (offset : UInt64) (data : PageBuffer) :
    (store.store offset data).2.used = store.used := by
  rw [PageStore.store]
  split <;> rfl

@[simp]
theorem maxPages_store (store : PageStore) (offset : UInt64) (data : PageBuffer) :
    (store.store offset data).2.maxPages = store.maxPages := by
  rw [PageStore.store]
  split <;> rfl

theorem free_of_mem (present : offset ∈ store.pages) :
    store.free offset =
      (true, { store with pages := store.pages.erase offset, used := store.used - 1 }) := by
  rw [free, if_pos present]

theorem free_of_notMem (absent : offset ∉ store.pages) :
    store.free offset = (false, store) := by
  rw [free, if_neg absent]

theorem len_free_of_mem (present : offset ∈ store.pages) :
    (store.free offset).2.len + 1 = store.len := by
  rw [free_of_mem present]
  exact HashMap.size_erase_of_mem present

@[simp]
theorem nextOffset_store (store : PageStore) (offset : UInt64) (data : PageBuffer) :
    (store.store offset data).2.nextOffset = store.nextOffset := by
  rw [PageStore.store]
  split <;> rfl

@[simp]
theorem nextOffset_free (store : PageStore) (offset : UInt64) :
    (store.free offset).2.nextOffset = store.nextOffset := by
  rw [free]
  split <;> rfl

theorem lookup_store_of_ne (store : PageStore) {offset other : UInt64} (data : PageBuffer)
    (distinct : other ≠ offset) :
    (store.store offset data).2.pages.lookup other = store.pages.lookup other := by
  rw [PageStore.store]
  split
  · rfl
  · exact (HashMap.lookup_insert_eq_ite _ _ _ _).trans (if_neg distinct)

theorem lookup_of_accepted {data : PageBuffer} (accepted : (store.store offset data).1 = true) :
    (store.store offset data).2.pages.lookup offset = some data := by
  rw [PageStore.store] at accepted ⊢
  split
  · next refused => simp [if_pos refused] at accepted
  · exact (HashMap.lookup_insert_eq_ite _ _ _ _).trans (if_pos rfl)

theorem lookup_free_of_ne (store : PageStore) {offset other : UInt64}
    (distinct : other ≠ offset) :
    (store.free offset).2.pages.lookup other = store.pages.lookup other := by
  rw [free]
  split
  · exact (HashMap.lookup_erase_eq_ite _ _ _).trans (if_neg distinct)
  · rfl

theorem lookup_free_self (store : PageStore) (offset : UInt64) :
    (store.free offset).2.pages.lookup offset = none := by
  rw [free]
  split
  · exact (HashMap.lookup_erase_eq_ite _ _ _).trans (if_pos rfl)
  · next absent => exact AList.lookup_eq_none.mpr absent

end PageStore

end Duvm.Memserver
