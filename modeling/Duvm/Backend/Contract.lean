import Duvm.Backend.Compress
import Duvm.Backend.Memory
import Mathlib.Logic.Function.Basic

/-!
# The contract of a backend

What the engine may expect of a backend is said by an abstract store of pages
in numbered slots, `Slots`: a handle is issued for a slot which was never used,
a page stored through it stays there until it is freed, and there is room as
long as fewer pages are kept than the limit allows. `LawfulBackend` ties a
backend to such a store, operation by operation. The memory backend and the
compression backend are lawful.
-/

namespace Duvm

open Function (update)

universe u

/-- A bounded store of pages in slots; `issued` is the number of handles given out. -/
structure Slots where
  page : UInt64 → Option PageBuffer
  used : ℕ
  total : ℕ
  issued : ℕ

namespace Slots

def issue (slots : Slots) : Slots := { slots with issued := slots.issued + 1 }

def put (slots : Slots) (slot : UInt64) (data : PageBuffer) : Slots :=
  { slots with page := update slots.page slot (some data), used := slots.used + 1 }

def clear (slots : Slots) (slot : UInt64) : Slots :=
  { slots with
    page := update slots.page slot none
    used := if (slots.page slot).isSome then slots.used - 1 else slots.used }

end Slots

/-- A backend which keeps pages as the abstract store does. -/
class LawfulBackend (Backend : Type u) extends DuvmBackend Backend where
  Valid : Backend → Prop
  slots : Backend → Slots
  occupied : ∀ {backend slot}, Valid backend → ((slots backend).page slot).isSome →
    slot.toNat < (slots backend).issued ∧ 0 < (slots backend).used
  within : ∀ {backend}, Valid backend → (slots backend).used ≤ (slots backend).total
  limited : ∀ {backend}, Valid backend → (slots backend).issued ≤ PageHandle.offsetLimit
  room : ∀ {backend}, Valid backend →
    ((isHealthy backend && (capacity backend).2 < (capacity backend).1) = true ↔
      (slots backend).used < (slots backend).total)
  alloc : ∀ {backend}, Valid backend →
    ((slots backend).total ≤ (slots backend).used ∧
      ∃ error, allocPage backend = (.err error, backend)) ∨
    ((slots backend).used < (slots backend).total ∧
      PageHandle.offsetLimit ≤ (slots backend).issued ∧
      ∃ after, allocPage backend = (.panic, after)) ∨
    ((slots backend).used < (slots backend).total ∧
      ∃ handle after, allocPage backend = (.ok handle, after) ∧ Valid after ∧
        handle.offset.toNat = (slots backend).issued ∧ slots after = (slots backend).issue)
  store : ∀ {backend handle} data, Valid backend →
    (slots backend).used < (slots backend).total →
    handle.offset.toNat < (slots backend).issued →
    (slots backend).page handle.offset = none →
    ∃ after, storePage backend handle data = (.ok (), after) ∧ Valid after ∧
      slots after = (slots backend).put handle.offset data
  free : ∀ {backend} handle, Valid backend →
    ∃ after, freePage backend handle = (.ok (), after) ∧ Valid after ∧
      slots after = (slots backend).clear handle.offset
  load : ∀ {backend} handle, Valid backend →
    (∀ data, (slots backend).page handle.offset = some data →
      loadPage backend handle = (.ok data, backend)) ∧
    ((slots backend).page handle.offset = none →
      ∃ error, loadPage backend handle = (.error error, backend))

theorem LawfulBackend.loadPage_snd {Backend : Type u} [LawfulBackend Backend] {backend : Backend}
    (valid : Valid backend) (handle : PageHandle) :
    (DuvmBackend.loadPage backend handle).2 = backend := by
  rcases LawfulBackend.load handle valid with ⟨found, absent⟩
  cases held : (slots backend).page handle.offset with
  | none =>
      rcases absent held with ⟨error, missed⟩
      rw [missed]
  | some data => rw [found data held]

namespace PageTable

variable {Value : Type u}

/-- The slots of a table, when its values decode to pages. -/
def slots (decode : Value → Option PageBuffer) (table : PageTable Value) : Slots where
  page slot := (table.pages.lookup slot).bind decode
  used := HashMap.size table.pages
  total := table.maxPages.toNat
  issued := table.nextOffset.toNat

/-- Every value decodes. -/
def Decodes (decode : Value → Option PageBuffer) (table : PageTable Value) : Prop :=
  ∀ slot value, table.pages.lookup slot = some value → (decode value).isSome

variable {decode : Value → Option PageBuffer} {table : PageTable Value}

variable {slot : UInt64}

theorem Decodes.page_eq_none_iff (decodes : table.Decodes decode) :
    (table.slots decode).page slot = none ↔ slot ∉ table.pages := by
  simp only [slots]
  cases found : table.pages.lookup slot with
  | none =>
      have absent : slot ∉ table.pages := AList.lookup_eq_none.mp found
      simp [absent]
  | some value =>
      have present : slot ∈ table.pages := HashMap.mem_of_lookup_eq_some found
      have isSome := decodes slot value found
      simp only [Option.bind_some, present, not_true_eq_false, iff_false]
      intro isNone
      rw [isNone] at isSome
      simp at isSome

theorem Valid.occupied (valid : table.Valid) (decodes : table.Decodes decode)
    (isSome : ((table.slots decode).page slot).isSome) :
    slot.toNat < (table.slots decode).issued ∧ 0 < (table.slots decode).used := by
  have present : slot ∈ table.pages := by
    by_contra absent
    rw [decodes.page_eq_none_iff.mpr absent] at isSome
    simp at isSome
  exact ⟨valid.issued slot present, HashMap.size_pos_of_mem present⟩

theorem Decodes.insert (decodes : table.Decodes decode) {value : Value}
    (isSome : (decode value).isSome) : (table.insert slot value).Decodes decode := by
  intro other found listed
  simp only [PageTable.insert, HashMap.lookup_insert_eq_ite] at listed
  split at listed
  · rw [← Option.some.inj listed]
    exact isSome
  · exact decodes other found listed

theorem Decodes.remove (decodes : table.Decodes decode) (slot : UInt64) :
    (table.remove slot).Decodes decode := by
  intro other found listed
  simp only [PageTable.remove, HashMap.lookup_erase_eq_ite] at listed
  split at listed
  · simp at listed
  · exact decodes other found listed

theorem slots_insert (decodes : table.Decodes decode) {value : Value} {data : PageBuffer}
    (isData : decode value = some data) (free : (table.slots decode).page slot = none) :
    (table.insert slot value).slots decode = (table.slots decode).put slot data := by
  have absent := decodes.page_eq_none_iff.mp free
  simp only [slots, PageTable.insert, Slots.put, HashMap.size_insert_of_notMem value absent,
    Slots.mk.injEq, and_true]
  funext other
  rw [HashMap.lookup_insert_eq_ite, Function.update_apply]
  split
  · exact isData
  · rfl

theorem slots_remove (decodes : table.Decodes decode) (slot : UInt64) :
    (table.remove slot).slots decode = (table.slots decode).clear slot := by
  have counted : HashMap.size (table.remove slot).pages =
      if ((table.slots decode).page slot).isSome then HashMap.size table.pages - 1
      else HashMap.size table.pages := by
    rw [size_remove]
    refine if_congr ?_ rfl rfl
    rw [Option.isSome_iff_ne_none, ne_eq, decodes.page_eq_none_iff, not_not]
  simp only [slots, Slots.clear, Slots.mk.injEq, PageTable.remove, and_true] at counted ⊢
  refine ⟨?_, counted⟩
  funext other
  rw [HashMap.lookup_erase_eq_ite, Function.update_apply]
  split <;> rfl

end PageTable

namespace MemoryBackend

instance : LawfulBackend MemoryBackend where
  tier _ := .compressed
  allocPage := allocPage
  freePage := freePage
  storePage := storePage
  loadPage := loadPage
  capacity backend := backend.toPageTable.capacity
  isHealthy _ := true
  Valid backend := backend.toPageTable.Valid
  slots backend := backend.toPageTable.slots some
  occupied := by
    intro backend slot valid isSome
    exact valid.occupied (fun _ _ _ => rfl) isSome
  within := fun valid => valid.within
  limited := fun valid => valid.limited
  room := by
    intro backend valid
    simp only [Bool.true_and, decide_eq_true_eq]
    exact valid.len_lt_iff
  alloc := by
    intro backend valid
    rcases valid.allocPage_cases .memoryFull with
      ⟨full, refused⟩ | ⟨room, spent, panicked⟩ | ⟨room, handle, allocated, slot, next, after⟩
    · exact Or.inl ⟨full, _, by rw [allocPage, refused]⟩
    · exact Or.inr (Or.inl ⟨room, spent, _, by rw [allocPage, panicked]⟩)
    · refine Or.inr (Or.inr ⟨room, handle, _, by rw [allocPage, allocated], after, ?_, ?_⟩)
      · rw [slot]
        rfl
      · simp only [PageTable.slots, Slots.issue, next]
  store := by
    intro backend handle data valid room wasIssued free
    have decodes : backend.toPageTable.Decodes some := fun _ _ _ => rfl
    refine ⟨_, rfl, ?_, PageTable.slots_insert decodes rfl free⟩
    exact valid.insert data room wasIssued (decodes.page_eq_none_iff.mp free)
  free := by
    intro backend handle valid
    exact ⟨_, rfl, valid.remove _, PageTable.slots_remove (fun _ _ _ => rfl) _⟩
  load := by
    intro backend handle valid
    simp only [PageTable.slots, loadPage]
    constructor
    · intro data found
      cases isStored : backend.pages.lookup handle.offset with
      | none => simp [isStored] at found
      | some stored => simpa [isStored] using found
    · intro absent
      cases isStored : backend.pages.lookup handle.offset with
      | none => exact ⟨_, rfl⟩
      | some stored => simp [isStored] at absent

end MemoryBackend

namespace CompressBackend

variable {codec : Lz4}

/-- What `load_page` makes of a compressed block. -/
def decode (codec : Lz4) (compressed : List UInt8) : Option PageBuffer :=
  (codec.decompressSizePrepended compressed).bind PageBuffer.ofBytes

theorem decode_compressed (codec : Lz4) (page : PageBuffer) :
    decode codec (codec.compressPrependSize page.toList) = some page := by
  rw [decode, codec.lossless, Option.bind_some, PageBuffer.ofBytes_toList]

instance : LawfulBackend (CompressBackend codec) where
  tier _ := .compressed
  allocPage := allocPage
  freePage := freePage
  storePage := storePage
  loadPage := loadPage
  capacity backend := backend.toPageTable.capacity
  isHealthy _ := true
  Valid backend := backend.toPageTable.Valid ∧ backend.toPageTable.Decodes (decode codec)
  slots backend := backend.toPageTable.slots (decode codec)
  occupied := by
    rintro backend slot ⟨valid, decodes⟩ isSome
    exact valid.occupied decodes isSome
  within := fun valid => valid.1.within
  limited := fun valid => valid.1.limited
  room := by
    rintro backend ⟨valid, _⟩
    simp only [Bool.true_and, decide_eq_true_eq]
    exact valid.len_lt_iff
  alloc := by
    rintro backend ⟨valid, decodes⟩
    rcases valid.allocPage_cases .compressFull with
      ⟨full, refused⟩ | ⟨room, spent, panicked⟩ | ⟨room, handle, allocated, slot, next, after⟩
    · exact Or.inl ⟨full, _, by rw [allocPage, refused]⟩
    · exact Or.inr (Or.inl ⟨room, spent, _, by rw [allocPage, panicked]⟩)
    · have result : allocPage backend =
          (.ok handle, { backend with nextOffset := backend.nextOffset + 1 }) := by
        rw [allocPage, allocated]
      refine Or.inr (Or.inr ⟨room, handle, _, result, ⟨after, decodes⟩, ?_, ?_⟩)
      · rw [slot]
        rfl
      · simp only [PageTable.slots, Slots.issue, next]
  store := by
    rintro backend handle data ⟨valid, decodes⟩ room wasIssued free
    have isData := decode_compressed codec data
    refine ⟨_, rfl, ⟨?_, ?_⟩, PageTable.slots_insert decodes isData free⟩
    · exact valid.insert _ room wasIssued (decodes.page_eq_none_iff.mp free)
    · exact decodes.insert (by rw [isData]; rfl)
  free := by
    rintro backend handle ⟨valid, decodes⟩
    have cleared := PageTable.slots_remove decodes handle.offset
    cases isStored : backend.pages.lookup handle.offset with
    | some stored =>
        refine ⟨_, by rw [freePage, isStored], ⟨valid.remove _, decodes.remove _⟩, cleared⟩
    | none =>
        have absent : handle.offset ∉ backend.pages := AList.lookup_eq_none.mp isStored
        refine ⟨_, by rw [freePage, isStored], ⟨valid, decodes⟩, ?_⟩
        rw [← cleared, PageTable.remove, HashMap.erase_of_notMem absent]
  load := by
    rintro backend handle ⟨valid, decodes⟩
    simp only [PageTable.slots, loadPage]
    cases isStored : backend.pages.lookup handle.offset with
    | none =>
        constructor
        · intro data found
          simp at found
        · intro _
          exact ⟨_, rfl⟩
    | some stored =>
        have isSome := decodes handle.offset stored isStored
        unfold decode at isSome
        simp only [Option.bind_some, decode]
        cases decompressed : codec.decompressSizePrepended stored with
        | none => simp [decompressed] at isSome
        | some bytes =>
            cases isPage : PageBuffer.ofBytes bytes with
            | none => simp [decompressed, isPage] at isSome
            | some page =>
                constructor
                · intro data found
                  simpa [isPage] using found
                · intro absent
                  simp [isPage] at absent

end CompressBackend

/-- The backends which keep pages on this machine. -/
inductive LocalBackend (codec : Lz4) where
  | memory (backend : MemoryBackend)
  | compress (backend : CompressBackend codec)

namespace LocalBackend

variable {codec : Lz4}

instance : DuvmBackend (LocalBackend codec) where
  tier
    | .memory backend => DuvmBackend.tier backend
    | .compress backend => DuvmBackend.tier backend
  allocPage
    | .memory backend => Prod.map id .memory (DuvmBackend.allocPage backend)
    | .compress backend => Prod.map id .compress (DuvmBackend.allocPage backend)
  freePage
    | .memory backend, handle => Prod.map id .memory (DuvmBackend.freePage backend handle)
    | .compress backend, handle => Prod.map id .compress (DuvmBackend.freePage backend handle)
  storePage
    | .memory backend, handle, data =>
        Prod.map id .memory (DuvmBackend.storePage backend handle data)
    | .compress backend, handle, data =>
        Prod.map id .compress (DuvmBackend.storePage backend handle data)
  loadPage
    | .memory backend, handle => Prod.map id .memory (DuvmBackend.loadPage backend handle)
    | .compress backend, handle => Prod.map id .compress (DuvmBackend.loadPage backend handle)
  capacity
    | .memory backend => DuvmBackend.capacity backend
    | .compress backend => DuvmBackend.capacity backend
  isHealthy
    | .memory backend => DuvmBackend.isHealthy backend
    | .compress backend => DuvmBackend.isHealthy backend

instance : LawfulBackend (LocalBackend codec) where
  Valid
    | .memory backend => LawfulBackend.Valid backend
    | .compress backend => LawfulBackend.Valid backend
  slots
    | .memory backend => LawfulBackend.slots backend
    | .compress backend => LawfulBackend.slots backend
  occupied := by
    intro backend slot valid isSome
    cases backend with
    | memory backend => exact LawfulBackend.occupied valid isSome
    | compress backend => exact LawfulBackend.occupied valid isSome
  within := by
    intro backend valid
    cases backend with
    | memory backend => exact LawfulBackend.within valid
    | compress backend => exact LawfulBackend.within valid
  limited := by
    intro backend valid
    cases backend with
    | memory backend => exact LawfulBackend.limited valid
    | compress backend => exact LawfulBackend.limited valid
  room := by
    intro backend valid
    cases backend with
    | memory backend => exact LawfulBackend.room valid
    | compress backend => exact LawfulBackend.room valid
  alloc := by
    intro backend valid
    cases backend with
    | memory backend =>
        rcases LawfulBackend.alloc valid with
          ⟨full, error, refused⟩ | ⟨room, spent, after, panicked⟩ |
            ⟨room, handle, after, allocated, stillValid, slot, issued⟩
        · exact Or.inl ⟨full, error, congrArg (Prod.map id LocalBackend.memory) refused⟩
        · exact Or.inr (Or.inl
            ⟨room, spent, .memory after, congrArg (Prod.map id LocalBackend.memory) panicked⟩)
        · exact Or.inr (Or.inr ⟨room, handle, .memory after,
            congrArg (Prod.map id LocalBackend.memory) allocated, stillValid, slot, issued⟩)
    | compress backend =>
        rcases LawfulBackend.alloc valid with
          ⟨full, error, refused⟩ | ⟨room, spent, after, panicked⟩ |
            ⟨room, handle, after, allocated, stillValid, slot, issued⟩
        · exact Or.inl ⟨full, error, congrArg (Prod.map id LocalBackend.compress) refused⟩
        · exact Or.inr (Or.inl
            ⟨room, spent, .compress after, congrArg (Prod.map id LocalBackend.compress) panicked⟩)
        · exact Or.inr (Or.inr ⟨room, handle, .compress after,
            congrArg (Prod.map id LocalBackend.compress) allocated, stillValid, slot, issued⟩)
  store := by
    intro backend handle data valid room wasIssued isFree
    cases backend with
    | memory backend =>
        rcases LawfulBackend.store data valid room wasIssued isFree with
          ⟨after, stored, stillValid, put⟩
        exact ⟨.memory after, congrArg (Prod.map id LocalBackend.memory) stored, stillValid, put⟩
    | compress backend =>
        rcases LawfulBackend.store data valid room wasIssued isFree with
          ⟨after, stored, stillValid, put⟩
        exact ⟨.compress after, congrArg (Prod.map id LocalBackend.compress) stored, stillValid,
          put⟩
  free := by
    intro backend handle valid
    cases backend with
    | memory backend =>
        rcases LawfulBackend.free handle valid with ⟨after, freed, stillValid, cleared⟩
        exact ⟨.memory after, congrArg (Prod.map id LocalBackend.memory) freed, stillValid,
          cleared⟩
    | compress backend =>
        rcases LawfulBackend.free handle valid with ⟨after, freed, stillValid, cleared⟩
        exact ⟨.compress after, congrArg (Prod.map id LocalBackend.compress) freed, stillValid,
          cleared⟩
  load := by
    intro backend handle valid
    cases backend with
    | memory backend =>
        rcases LawfulBackend.load handle valid with ⟨found, absent⟩
        refine ⟨fun data isData => ?_, fun isNone => ?_⟩
        · exact congrArg (Prod.map id LocalBackend.memory) (found data isData)
        · rcases absent isNone with ⟨error, failed⟩
          exact ⟨error, congrArg (Prod.map id LocalBackend.memory) failed⟩
    | compress backend =>
        rcases LawfulBackend.load handle valid with ⟨found, absent⟩
        refine ⟨fun data isData => ?_, fun isNone => ?_⟩
        · exact congrArg (Prod.map id LocalBackend.compress) (found data isData)
        · rcases absent isNone with ⟨error, failed⟩
          exact ⟨error, congrArg (Prod.map id LocalBackend.compress) failed⟩

def maxPages : LocalBackend codec → UInt64
  | .memory backend => backend.maxPages
  | .compress backend => backend.maxPages

theorem fst_capacity (backend : LocalBackend codec) :
    (DuvmBackend.capacity backend).1 = backend.maxPages := by
  cases backend with
  | memory backend => rfl
  | compress backend => rfl

theorem total_slots (backend : LocalBackend codec) :
    (LawfulBackend.slots backend).total = backend.maxPages.toNat := by
  cases backend with
  | memory backend => rfl
  | compress backend => rfl

/-- A backend as `new` and `init` leave it. -/
def Fresh : LocalBackend codec → Prop
  | .memory backend => ∃ backendId maxPages, backend = .new backendId maxPages
  | .compress backend => ∃ backendId maxPages, backend = .new backendId maxPages

def backendId : LocalBackend codec → UInt8
  | .memory backend => backend.backendId
  | .compress backend => backend.backendId

/-- There is a page at the offset. -/
def Holds : LocalBackend codec → UInt64 → Prop
  | .memory backend, slot => slot ∈ backend.pages
  | .compress backend, slot => slot ∈ backend.pages

section Slots

variable {backend : LocalBackend codec}

theorem holds_iff (valid : LawfulBackend.Valid backend) (slot : UInt64) :
    backend.Holds slot ↔ ((LawfulBackend.slots backend).page slot).isSome := by
  rw [Option.isSome_iff_ne_none, ← not_iff_not, not_not]
  cases backend with
  | memory backend =>
      have decodes : backend.toPageTable.Decodes some := fun _ _ _ => rfl
      exact decodes.page_eq_none_iff.symm
  | compress backend => exact valid.2.page_eq_none_iff.symm

/-- The backend reports how many pages it has. -/
theorem toNat_capacity (valid : LawfulBackend.Valid backend) :
    (DuvmBackend.capacity backend).2.toNat = (LawfulBackend.slots backend).used := by
  cases backend with
  | memory backend => exact PageTable.Valid.toNat_len valid
  | compress backend => exact PageTable.Valid.toNat_len valid.1

end Slots

section Identifier

variable (backend : LocalBackend codec) (handle : PageHandle) (data : PageBuffer)

theorem backendId_allocPage : (DuvmBackend.allocPage backend).2.backendId = backend.backendId := by
  cases backend with
  | memory backend => exact PageTable.backendId_allocPage .memoryFull backend.toPageTable
  | compress backend => exact PageTable.backendId_allocPage .compressFull backend.toPageTable

theorem backendId_storePage :
    (DuvmBackend.storePage backend handle data).2.backendId = backend.backendId := by
  cases backend with
  | memory backend => rfl
  | compress backend => rfl

theorem backendId_freePage :
    (DuvmBackend.freePage backend handle).2.backendId = backend.backendId := by
  cases backend with
  | memory backend => rfl
  | compress backend =>
      change (CompressBackend.freePage backend handle).2.backendId = backend.backendId
      unfold CompressBackend.freePage
      split
      · rfl
      · rfl

theorem backendId_loadPage :
    (DuvmBackend.loadPage backend handle).2.backendId = backend.backendId := by
  cases backend with
  | memory backend =>
      change (MemoryBackend.loadPage backend handle).2.backendId = backend.backendId
      unfold MemoryBackend.loadPage
      split
      · rfl
      · rfl
  | compress backend =>
      change (CompressBackend.loadPage backend handle).2.backendId = backend.backendId
      unfold CompressBackend.loadPage
      split
      · rfl
      · split
        · rfl
        · split
          · rfl
          · rfl

end Identifier

section Limit

variable (backend : LocalBackend codec) (handle : PageHandle) (data : PageBuffer)

theorem maxPages_allocPage : (DuvmBackend.allocPage backend).2.maxPages = backend.maxPages := by
  cases backend with
  | memory backend => exact PageTable.maxPages_allocPage .memoryFull backend.toPageTable
  | compress backend => exact PageTable.maxPages_allocPage .compressFull backend.toPageTable

theorem maxPages_storePage :
    (DuvmBackend.storePage backend handle data).2.maxPages = backend.maxPages := by
  cases backend with
  | memory backend => rfl
  | compress backend => rfl

theorem maxPages_freePage :
    (DuvmBackend.freePage backend handle).2.maxPages = backend.maxPages := by
  cases backend with
  | memory backend => rfl
  | compress backend =>
      change (CompressBackend.freePage backend handle).2.maxPages = backend.maxPages
      unfold CompressBackend.freePage
      split
      · rfl
      · rfl

end Limit

theorem backendId_of_allocated {backend after : LocalBackend codec} {handle : PageHandle}
    (allocated : DuvmBackend.allocPage backend = (.ok handle, after)) :
    handle.backendId = backend.backendId ∧ after.backendId = backend.backendId := by
  have issued := congrArg Prod.fst allocated
  refine ⟨?_, ?_⟩
  · cases backend with
    | memory backend => exact PageTable.backendId_of_allocated issued
    | compress backend => exact PageTable.backendId_of_allocated issued
  · rw [← backendId_allocPage backend, allocated]

end LocalBackend

end Duvm
