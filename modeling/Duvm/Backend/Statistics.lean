import Duvm.Backend.Lz4
import Duvm.Library.Transition

/-!
# The statistics of the compression backend

`bytes_stored_raw` and `bytes_stored_compressed` are counted beside the map of
pages: a store adds the sizes of the new page, a free subtracts those of the
page it removes. A store under a handle which already holds a page replaces
the page in the map and adds its sizes once more.

The counters therefore say what is stored, after every call of a run, exactly
when no call of the run overwrites a page and the sizes fit the counters.
-/

namespace Duvm

open Transition

namespace CompressBackend

variable {codec : Lz4}

/-- A call which changes the backend. -/
inductive Change where
  | alloc
  | store (handle : PageHandle) (data : PageBuffer)
  | free (handle : PageHandle)
  | shutdown

/-- The backend after a call, whatever the call returns. -/
def change (backend : CompressBackend codec) : Change → CompressBackend codec
  | .alloc => backend.allocPage.2
  | .store handle data => (backend.storePage handle data).2
  | .free handle => (backend.freePage handle).2
  | .shutdown => backend.shutdown

def step (backend : CompressBackend codec) (call : Change) : Option (CompressBackend codec) :=
  some (backend.change call)

/-- The number of bytes of all compressed pages. -/
def compressedBytes (backend : CompressBackend codec) : ℕ :=
  HashMap.total List.length backend.pages

/-- The counters say what is stored. -/
structure Accurate (backend : CompressBackend codec) : Prop where
  raw : backend.bytesStoredRaw.toNat = PAGE_SIZE * HashMap.size backend.pages
  compressed : backend.bytesStoredCompressed.toNat = backend.compressedBytes

/-- No counter leaves its range. -/
def NoWrap (backend : CompressBackend codec) : Change → Prop
  | .alloc => True
  | .store _ data =>
      backend.bytesStoredRaw.toNat + PAGE_SIZE < 2 ^ 64 ∧
        backend.bytesStoredCompressed.toNat +
          (codec.compressPrependSize data.toList).length < 2 ^ 64
  | .free handle => ∀ data, backend.pages.lookup handle.offset = some data →
      PAGE_SIZE ≤ backend.bytesStoredRaw.toNat ∧
        data.length ≤ backend.bytesStoredCompressed.toNat
  | .shutdown => True

/-- A store finds no page under its handle, and the sizes of what is stored afterwards fit. -/
def Adds (backend : CompressBackend codec) : Change → Prop
  | .alloc => True
  | .store handle data =>
      handle.offset ∉ backend.pages ∧ PAGE_SIZE * (HashMap.size backend.pages + 1) < 2 ^ 64 ∧
        backend.compressedBytes + (codec.compressPrependSize data.toList).length < 2 ^ 64
  | .free _ => True
  | .shutdown => True

theorem accurate_new (backendId : UInt8) (maxPages : UInt64) :
    (new backendId maxPages : CompressBackend codec).Accurate := ⟨rfl, rfl⟩

variable {backend : CompressBackend codec}

theorem Accurate.allocPage (accurate : backend.Accurate) :
    backend.allocPage.2.Accurate := by
  have same : backend.allocPage.2.pages = backend.pages :=
    PageTable.pages_allocPage .compressFull backend.toPageTable
  refine ⟨?_, ?_⟩
  · rw [same]
    exact accurate.raw
  · rw [compressedBytes, same]
    exact accurate.compressed

theorem Accurate.freePage (accurate : backend.Accurate) (handle : PageHandle) :
    (backend.freePage handle).2.Accurate ∧ backend.NoWrap (.free handle) := by
  have raw : backend.bytesStoredRaw.toNat = 4096 * HashMap.size backend.pages := accurate.raw
  have compressed : backend.bytesStoredCompressed.toNat = HashMap.total List.length backend.pages :=
    accurate.compressed
  cases found : backend.pages.lookup handle.offset with
  | none =>
      refine ⟨?_, ?_⟩
      · rw [CompressBackend.freePage, found]
        exact accurate
      · intro data isData
        rw [found] at isData
        cases isData
  | some data =>
      have present : handle.offset ∈ backend.pages := HashMap.mem_of_lookup_eq_some found
      have fewer := HashMap.size_erase_of_mem present
      have lighter := HashMap.total_erase List.length found
      have page : (UInt64.ofNat 4096).toNat = 4096 := rfl
      have bound := backend.bytesStoredCompressed.toNat_lt
      have length : (UInt64.ofNat data.length).toNat = data.length :=
        UInt64.toNat_ofNat_of_lt' (by rw [UInt64.size]; omega)
      refine ⟨?_, ?_⟩
      · rw [CompressBackend.freePage, found]
        refine ⟨?_, ?_⟩
        · simp only [PageTable.remove, PAGE_SIZE]
          rw [UInt64.toNat_sub_of_le _ _ (UInt64.le_iff_toNat_le.mpr (by omega)), raw]
          omega
        · simp only [compressedBytes, PageTable.remove]
          rw [UInt64.toNat_sub_of_le _ _ (UInt64.le_iff_toNat_le.mpr (by omega)), length]
          omega
      · intro other isOther
        rw [found, Option.some.injEq] at isOther
        subst isOther
        simp only [PAGE_SIZE]
        omega

theorem toNat_add_ofNat (counter : UInt64) (amount : ℕ) :
    (counter + UInt64.ofNat amount).toNat = (counter.toNat + amount) % 2 ^ 64 := by
  rw [UInt64.toNat_add, UInt64.toNat_ofNat', Nat.add_mod_mod]

/-- A store keeps the counters right exactly when it adds a page whose sizes fit. -/
theorem Accurate.storePage_iff (accurate : backend.Accurate) (handle : PageHandle)
    (data : PageBuffer) :
    (backend.storePage handle data).2.Accurate ∧ backend.NoWrap (.store handle data) ↔
      backend.Adds (.store handle data) := by
  have raw : backend.bytesStoredRaw.toNat = 4096 * HashMap.size backend.pages := accurate.raw
  have compressed : backend.bytesStoredCompressed.toNat = backend.compressedBytes :=
    accurate.compressed
  have rawAfter : (backend.storePage handle data).2.bytesStoredRaw.toNat =
      (4096 * HashMap.size backend.pages + 4096) % 2 ^ 64 := by
    rw [← raw]
    exact toNat_add_ofNat _ _
  have compressedAfter : (backend.storePage handle data).2.bytesStoredCompressed.toNat =
      (backend.compressedBytes + (codec.compressPrependSize data.toList).length) % 2 ^ 64 := by
    rw [← compressed]
    exact toNat_add_ofNat _ _
  by_cases present : handle.offset ∈ backend.pages
  · have same : HashMap.size (backend.storePage handle data).2.pages =
        HashMap.size backend.pages := HashMap.size_insert_of_mem _ present
    constructor
    · rintro ⟨after, fits, _⟩
      have drifted := after.raw
      simp only [PAGE_SIZE] at drifted fits
      rw [rawAfter, same] at drifted
      omega
    · rintro ⟨absent, _⟩
      exact absurd present absent
  · have more : HashMap.size (backend.storePage handle data).2.pages =
        HashMap.size backend.pages + 1 := HashMap.size_insert_of_notMem _ present
    have heavier : (backend.storePage handle data).2.compressedBytes =
        backend.compressedBytes + (codec.compressPrependSize data.toList).length :=
      HashMap.total_insert_of_notMem List.length _ present
    constructor
    · rintro ⟨_, rawFits, compressedFits⟩
      simp only [PAGE_SIZE] at rawFits
      refine ⟨present, ?_, ?_⟩
      · simp only [PAGE_SIZE]
        omega
      · rw [← compressed]
        exact compressedFits
    · rintro ⟨_, rawFits, compressedFits⟩
      simp only [PAGE_SIZE] at rawFits
      refine ⟨⟨?_, ?_⟩, ?_, ?_⟩
      · rw [rawAfter, more, PAGE_SIZE, Nat.mod_eq_of_lt (by omega)]
        omega
      · rw [compressedAfter, heavier, Nat.mod_eq_of_lt compressedFits]
      · simp only [PAGE_SIZE]
        omega
      · rw [compressed]
        exact compressedFits

/-- A call keeps the counters right, without leaving their range, exactly when it adds. -/
theorem Accurate.change_iff (accurate : backend.Accurate) (call : Change) :
    (backend.change call).Accurate ∧ backend.NoWrap call ↔ backend.Adds call := by
  cases call with
  | alloc => exact iff_of_true ⟨accurate.allocPage, trivial⟩ trivial
  | store handle data => exact accurate.storePage_iff handle data
  | free handle => exact iff_of_true (accurate.freePage handle) trivial
  | shutdown => exact iff_of_true ⟨⟨rfl, rfl⟩, trivial⟩ trivial

theorem Accurate.throughout_iff (accurate : backend.Accurate) (calls : List Change) :
    Throughout step Accurate backend calls ∧ Along step NoWrap backend calls ↔
      Along step Adds backend calls := by
  induction calls generalizing backend with
  | nil =>
      rw [throughout_nil]
      exact iff_of_true ⟨accurate, trivial⟩ trivial
  | cons call rest ih =>
      have stepped : backend.step call = some (backend.change call) := rfl
      rw [throughout_cons]
      simp only [Along, stepped, Option.some.injEq, forall_eq']
      constructor
      · rintro ⟨⟨_, later⟩, noWrap, laterNoWrap⟩
        have next := later.at_start
        refine ⟨(accurate.change_iff call).mp ⟨next, noWrap⟩, ?_⟩
        exact (ih next).mp ⟨later, laterNoWrap⟩
      · rintro ⟨adds, laterAdds⟩
        rcases (accurate.change_iff call).mpr adds with ⟨next, noWrap⟩
        rcases (ih next).mpr laterAdds with ⟨later, laterNoWrap⟩
        exact ⟨⟨accurate, later⟩, noWrap, laterNoWrap⟩

/-- The counters say what is stored after every call, and never leave their range, exactly when
every store of the run adds a page, and one whose sizes fit. -/
theorem statistics_accurate_iff (backendId : UInt8) (maxPages : UInt64) (calls : List Change) :
    Throughout step Accurate (new backendId maxPages : CompressBackend codec) calls ∧
        Along step NoWrap (new backendId maxPages : CompressBackend codec) calls ↔
      Along step Adds (new backendId maxPages : CompressBackend codec) calls :=
  (accurate_new backendId maxPages).throughout_iff calls

/-- Storing twice under one handle leaves one page and the size of two. -/
theorem statistics_drift_on_overwrite :
    ∃ backend : CompressBackend .literalLz4,
      run step (new 0 4) [.alloc, .store ⟨0⟩ .zero, .store ⟨0⟩ .zero] = some backend ∧
        HashMap.size backend.pages = 1 ∧ backend.bytesStoredRaw = 8192 ∧ ¬backend.Accurate := by
  refine ⟨_, rfl, rfl, rfl, ?_⟩
  intro accurate
  have raw := accurate.raw
  revert raw
  decide

end CompressBackend

end Duvm
