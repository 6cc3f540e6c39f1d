import Duvm.Backend.Trait
import Duvm.Library.HashMap

/-!
# Tables of pages

The memory backend and the compression backend keep their pages in the same
way, in a hash map under offsets handed out by a counter, and differ in what
they keep for a page. This file is what they share.
-/

namespace Duvm

universe u

structure PageTable (Value : Type u) where
  pages : HashMap UInt64 Value
  nextOffset : UInt64
  maxPages : UInt64
  backendId : UInt8

namespace PageTable

variable {Value : Type u}

/-- A new backend, after `init` with the given limit. -/
def new (backendId : UInt8) (maxPages : UInt64) : PageTable Value :=
  { pages := ∅, nextOffset := 0, maxPages, backendId }

/-- The number of pages kept, `pages.len() as u64`. -/
def len (table : PageTable Value) : UInt64 := UInt64.ofNat (HashMap.size table.pages)

def allocPage (full : UInt64 → DuvmError) (table : PageTable Value) :
    Outcome PageHandle × PageTable Value :=
  if table.len ≥ table.maxPages then (.err (full table.maxPages), table)
  else
    let advanced := { table with nextOffset := table.nextOffset + 1 }
    match PageHandle.new table.backendId table.nextOffset with
    | some handle => (.ok handle, advanced)
    | none => (.panic, advanced)

def insert (table : PageTable Value) (offset : UInt64) (value : Value) : PageTable Value :=
  { table with pages := table.pages.insert offset value }

def remove (table : PageTable Value) (offset : UInt64) : PageTable Value :=
  { table with pages := table.pages.erase offset }

def capacity (table : PageTable Value) : UInt64 × UInt64 := (table.maxPages, table.len)

/-- Within its limit, with every page under an offset which was handed out. -/
structure Valid (table : PageTable Value) : Prop where
  within : HashMap.size table.pages ≤ table.maxPages.toNat
  issued : ∀ offset ∈ table.pages, offset.toNat < table.nextOffset.toNat
  limited : table.nextOffset.toNat ≤ PageHandle.offsetLimit

theorem valid_new (backendId : UInt8) (maxPages : UInt64) :
    (new backendId maxPages : PageTable Value).Valid where
  within := Nat.zero_le _
  issued := by
    intro offset present
    simp [new] at present
  limited := Nat.zero_le _

variable {table : PageTable Value} {full : UInt64 → DuvmError}

theorem Valid.toNat_len (valid : table.Valid) :
    table.len.toNat = HashMap.size table.pages := by
  have bound := table.maxPages.toNat_lt
  have within := valid.within
  rw [len, UInt64.toNat_ofNat_of_lt']
  exact within.trans_lt bound

theorem Valid.len_lt_iff (valid : table.Valid) :
    table.len < table.maxPages ↔ HashMap.size table.pages < table.maxPages.toNat := by
  rw [UInt64.lt_iff_toNat_lt, valid.toNat_len]

theorem Valid.insert (valid : table.Valid) {offset : UInt64} (value : Value)
    (room : HashMap.size table.pages < table.maxPages.toNat)
    (wasIssued : offset.toNat < table.nextOffset.toNat) (absent : offset ∉ table.pages) :
    (table.insert offset value).Valid where
  within := by
    simp only [PageTable.insert]
    rw [HashMap.size_insert_of_notMem value absent]
    exact room
  issued := by
    intro other present
    rcases (AList.mem_insert _).mp present with rfl | old
    · exact wasIssued
    · exact valid.issued other old
  limited := valid.limited

theorem size_remove (table : PageTable Value) (offset : UInt64) :
    HashMap.size (table.remove offset).pages =
      if offset ∈ table.pages then HashMap.size table.pages - 1 else HashMap.size table.pages := by
  simp only [remove]
  split
  · next present =>
      have shrunk := HashMap.size_erase_of_mem present
      omega
  · next absent => rw [HashMap.erase_of_notMem absent]

theorem Valid.remove (valid : table.Valid) (offset : UInt64) :
    (table.remove offset).Valid where
  within := by
    have within := valid.within
    rw [size_remove]
    simp only [PageTable.remove]
    split
    · omega
    · exact within
  issued := by
    intro other present
    exact valid.issued other (AList.mem_erase.mp present).2
  limited := valid.limited

variable {handle : PageHandle}

/-- The offset of a handle is below the limit, so the next one does not overflow. -/
theorem fits_of_new {backendId : UInt8} {offset : UInt64}
    (created : PageHandle.new backendId offset = some handle) :
    offset.toNat < PageHandle.offsetLimit ∧ (offset + 1).toNat = offset.toNat + 1 := by
  have fits : offset.toNat < PageHandle.offsetLimit :=
    PageHandle.new_isSome.mp (by rw [created]; rfl)
  have limit : PageHandle.offsetLimit = 2 ^ 56 := rfl
  have one : (1 : UInt64).toNat = 1 := rfl
  refine ⟨fits, ?_⟩
  rw [UInt64.toNat_add, one, Nat.mod_eq_of_lt (by omega)]

/-- What an allocation does: refused when full, else a handle for the next offset, unless
the offset no longer fits a handle. -/
theorem Valid.allocPage_cases (valid : table.Valid) (full : UInt64 → DuvmError) :
    (table.maxPages.toNat ≤ HashMap.size table.pages ∧
      allocPage full table = (.err (full table.maxPages), table)) ∨
    (HashMap.size table.pages < table.maxPages.toNat ∧
      PageHandle.offsetLimit ≤ table.nextOffset.toNat ∧
      allocPage full table = (.panic, { table with nextOffset := table.nextOffset + 1 })) ∨
    (HashMap.size table.pages < table.maxPages.toNat ∧ ∃ handle,
      allocPage full table = (.ok handle, { table with nextOffset := table.nextOffset + 1 }) ∧
      handle.offset = table.nextOffset ∧
      (table.nextOffset + 1).toNat = table.nextOffset.toNat + 1 ∧
      { table with nextOffset := table.nextOffset + 1 }.Valid) := by
  unfold allocPage
  by_cases isFull : table.len ≥ table.maxPages
  · left
    refine ⟨?_, by rw [if_pos isFull]⟩
    rw [← valid.toNat_len]
    exact UInt64.le_iff_toNat_le.mp isFull
  · right
    have room := valid.len_lt_iff.mp (UInt64.not_le.mp isFull)
    rw [if_neg isFull]
    cases created : PageHandle.new table.backendId table.nextOffset with
    | none => exact Or.inl ⟨room, PageHandle.new_eq_none.mp created, rfl⟩
    | some handle =>
        rcases fits_of_new created with ⟨fits, advanced⟩
        refine Or.inr ⟨room, handle, rfl, PageHandle.offset_of_new created, advanced, ?_⟩
        refine ⟨valid.within, ?_, ?_⟩
        · intro offset present
          have below := valid.issued offset present
          simp only
          omega
        · simp only
          omega

/-- An allocation changes nothing but the next offset. -/
theorem allocPage_snd (full : UInt64 → DuvmError) (table : PageTable Value) :
    (table.allocPage full).2 = table ∨
      (table.allocPage full).2 = { table with nextOffset := table.nextOffset + 1 } := by
  unfold allocPage
  split
  · exact Or.inl rfl
  · right
    simp only
    split
    · rfl
    · rfl

@[simp]
theorem backendId_allocPage (full : UInt64 → DuvmError) (table : PageTable Value) :
    (table.allocPage full).2.backendId = table.backendId := by
  rcases allocPage_snd full table with same | advanced
  · rw [same]
  · rw [advanced]

@[simp]
theorem pages_allocPage (full : UInt64 → DuvmError) (table : PageTable Value) :
    (table.allocPage full).2.pages = table.pages := by
  rcases allocPage_snd full table with same | advanced
  · rw [same]
  · rw [advanced]

@[simp]
theorem maxPages_allocPage (full : UInt64 → DuvmError) (table : PageTable Value) :
    (table.allocPage full).2.maxPages = table.maxPages := by
  rcases allocPage_snd full table with same | advanced
  · rw [same]
  · rw [advanced]

/-- A handle is issued for the next offset, which fits it. -/
theorem offset_of_allocated (allocated : (table.allocPage full).1 = .ok handle) :
    handle.offset = table.nextOffset ∧ table.nextOffset.toNat < PageHandle.offsetLimit ∧
      (table.allocPage full).2.nextOffset.toNat = table.nextOffset.toNat + 1 := by
  unfold allocPage at allocated ⊢
  split at allocated
  · cases allocated
  · next room =>
      rw [if_neg room]
      cases created : PageHandle.new table.backendId table.nextOffset with
      | none =>
          rw [created] at allocated
          cases allocated
      | some issued =>
          rw [created] at allocated
          cases allocated
          exact ⟨PageHandle.offset_of_new created, fits_of_new created⟩

theorem allocPage_of_refused {error : DuvmError} (refused : (table.allocPage full).1 = .err error) :
    (table.allocPage full).2 = table := by
  unfold allocPage at refused ⊢
  split at refused
  · next isFull => rw [if_pos isFull]
  · next room =>
      cases created : PageHandle.new table.backendId table.nextOffset with
      | none =>
          rw [created] at refused
          cases refused
      | some issued =>
          rw [created] at refused
          cases refused

/-- A handle names the backend which issues it. -/
theorem backendId_of_allocated (allocated : (table.allocPage full).1 = .ok handle) :
    handle.backendId = table.backendId := by
  unfold allocPage at allocated
  split at allocated
  · cases allocated
  · simp only at allocated
    split at allocated
    · next created =>
        cases allocated
        exact PageHandle.backendId_of_new created
    · cases allocated

end PageTable

end Duvm
