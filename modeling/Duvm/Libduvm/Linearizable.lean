import Duvm.Libduvm.Handles
import Duvm.Libduvm.Threads
import Mathlib.Data.Fintype.Card

/-!
# The C interface is linearizable

A process sees one map from handles to pages, whichever of its threads call, and
however their accesses are interleaved: `Serves` says what a single caller may see,
and every history of a process is one of a single caller with its calls in some order,
in which a call comes after those which had returned before it was made. A store takes
effect when the page is inserted, or when the backend is found to be full.

The one thing which a single caller would not see is a store which succeeds
although the backend is full: threads which found room at the same time all take it.
-/

namespace Duvm

open Function (update)

universe u

namespace CompressBackend

variable {codec : Lz4} {backend : CompressBackend codec}

theorem loadPage_of_decodes (decodes : backend.toPageTable.Decodes (decode codec))
    (handle : PageHandle) :
    loadPage backend handle =
      (match (backend.toPageTable.slots (decode codec)).page handle.offset with
        | some data => .ok data
        | none => .error (.pageNotFound handle), backend) := by
  simp only [loadPage, PageTable.slots]
  cases found : backend.pages.lookup handle.offset with
  | none => rfl
  | some compressed =>
      have decoded := decodes handle.offset compressed found
      simp only [decode, Option.isSome_bind, Option.any_eq_true] at decoded
      rcases decoded with ⟨bytes, decompressed, isPage⟩
      rcases Option.isSome_iff_exists.mp isPage with ⟨page, isPage⟩
      simp [decode, decompressed, isPage]

theorem freePage_eq (backend : CompressBackend codec) (handle : PageHandle) :
    ∃ after, freePage backend handle = (.ok (), after) ∧
      after.toPageTable = backend.toPageTable.remove handle.offset := by
  cases found : backend.pages.lookup handle.offset with
  | none =>
      have absent : handle.offset ∉ backend.pages := AList.lookup_eq_none.mp found
      refine ⟨backend, by rw [freePage, found], ?_⟩
      rw [PageTable.remove, HashMap.erase_of_notMem absent]
  | some data => exact ⟨_, by rw [freePage, found], rfl⟩

end CompressBackend

theorem LocalBackend.freePage_compress {codec : Lz4} (backend : CompressBackend codec)
    (handle : PageHandle) :
    DuvmBackend.freePage (.compress backend : LocalBackend codec) handle =
      (backend.freePage handle).map id .compress := rfl

theorem LocalBackend.loadPage_compress {codec : Lz4} (backend : CompressBackend codec)
    (handle : PageHandle) :
    DuvmBackend.loadPage (.compress backend : LocalBackend codec) handle =
      (backend.loadPage handle).map id .compress := rfl

namespace Libduvm

open Linearizability PoolSession

/-- The pages behind the handles, and the handles which were given out. -/
structure Contents where
  pages : HashMap UInt64 PageBuffer
  issued : List UInt64

/-- What a single caller may see: the replies to a call, and what they change. -/
inductive Serves : Option Contents → ApiCall × ApiReply → Option Contents → Prop
  | opened : Serves none (.init, .code 0) (some ⟨∅, []⟩)
  | openedBefore {contents : Contents} :
      Serves (some contents) (.init, .code (-1)) (some contents)
  | nullStore {state : Option Contents} :
      Serves state (.storePage none, .handle noHandle) state
  | unopenedStore {data : PageBuffer} :
      Serves none (.storePage (some data), .handle noHandle) none
  | full {contents : Contents} {data : PageBuffer}
      (full : defaultMaxPages.toNat ≤ HashMap.size contents.pages) :
      Serves (some contents) (.storePage (some data), .handle noHandle) (some contents)
  | stored {contents : Contents} {data : PageBuffer} {raw : UInt64}
      (new : raw ∉ contents.issued) (valid : raw ≠ noHandle) :
      Serves (some contents) (.storePage (some data), .handle raw)
        (some ⟨contents.pages.insert raw data, raw :: contents.issued⟩)
  | nullLoad {state : Option Contents} {raw : UInt64} :
      Serves state (.loadPage raw none, .loaded (-1) none) state
  | unopenedLoad {raw : UInt64} {buf : PageBuffer} :
      Serves none (.loadPage raw (some buf), .loaded (-1) (some buf)) none
  | loaded {contents : Contents} {raw : UInt64} {buf data : PageBuffer}
      (found : contents.pages.lookup raw = some data) :
      Serves (some contents) (.loadPage raw (some buf), .loaded 0 (some data)) (some contents)
  | missing {contents : Contents} {raw : UInt64} {buf : PageBuffer}
      (absent : contents.pages.lookup raw = none) :
      Serves (some contents) (.loadPage raw (some buf), .loaded (-1) (some buf)) (some contents)
  | unopenedFree {raw : UInt64} : Serves none (.freePage raw, .code (-1)) none
  | freed {contents : Contents} {raw : UInt64}
      (known : (⟨raw⟩ : PageHandle).backendId = 0 ∨ (⟨raw⟩ : PageHandle).backendId = 1) :
      Serves (some contents) (.freePage raw, .code 0)
        (some ⟨contents.pages.erase raw, contents.issued⟩)
  | unknownFree {contents : Contents} {raw : UInt64}
      (notMemory : (⟨raw⟩ : PageHandle).backendId ≠ 0)
      (notCompress : (⟨raw⟩ : PageHandle).backendId ≠ 1) :
      Serves (some contents) (.freePage raw, .code (-1)) (some contents)
  | unopenedCapacity {quantity : Quantity} : Serves none (.capacity quantity, .pages 0) none
  | total {contents : Contents} :
      Serves (some contents) (.capacity .total, .pages (2 * defaultMaxPages)) (some contents)
  | used {contents : Contents} :
      Serves (some contents)
        (.capacity .used, .pages (UInt64.ofNat (HashMap.size contents.pages))) (some contents)

/-- The memory backend, which is empty, is added to the sums of `Pool::capacity`. -/
def addMemory (sums : UInt64 × UInt64) : UInt64 × UInt64 :=
  (saturatingAdd sums.1 defaultMaxPages, saturatingAdd sums.2 0)

theorem addCapacity_unused {codec : Lz4} (sums : UInt64 × UInt64) :
    addCapacity sums (unused codec) = addMemory sums := rfl

theorem saturatingAdd_defaultMaxPages :
    saturatingAdd defaultMaxPages defaultMaxPages = 2 * defaultMaxPages := by
  decide

namespace CallPoint

/-- Whether the call has taken effect, and with which reply. The capacity is decided when the
compression backend has been added. -/
def phase : CallPoint → Phase ApiCall ApiReply
  | .idle => .idle
  | .called call => .pending call
  | .checking _ data | .numbering _ data | .inserting _ _ data => .pending (.storePage (some data))
  | .loading handle buf => .pending (.loadPage handle (some buf))
  | .freeing handle => .pending (.freePage handle)
  | .counting backends sums quantity =>
      if 1 ∈ backends then .pending (.capacity quantity)
      else .answered (.pages (quantity.select (backends.foldl (fun sums _ => addMemory sums) sums)))
  | .returning reply => .answered reply

/-- The thread has no reference into the pool. -/
def Outside : CallPoint → Prop
  | .idle | .called _ | .returning _ => True
  | _ => False

/-- The handle which a thread has taken, and under which there is no page yet. -/
def handle? : CallPoint → Option PageHandle
  | .inserting _ handle _ => some handle
  | _ => none

/-- A thread refers to the compression backend, and to a handle of its own. -/
def Ready (nextOffset : UInt64) (issued : List UInt64) : CallPoint → Prop
  | .checking backendId _ | .numbering backendId _ => backendId = 1
  | .inserting backendId handle _ =>
      backendId = 1 ∧ handle.backendId = 1 ∧ handle.offset.toNat < nextOffset.toNat ∧
        handle.raw ∉ issued
  | .counting backends sums _ =>
      (backends = [1, 0] ∧ sums = (0, 0)) ∨ (backends = [1] ∧ sums = addMemory (0, 0)) ∨
        (backends = [0, 1] ∧ sums = (0, 0)) ∨ backends = [0] ∨ backends = []
  | _ => True

theorem Outside.ready {point : CallPoint} (outside : point.Outside) (nextOffset : UInt64)
    (issued : List UInt64) : point.Ready nextOffset issued ∧ point.handle? = none := by
  cases point with
  | idle | called | returning => exact ⟨trivial, rfl⟩
  | checking | numbering | inserting | loading | freeing | counting => exact outside.elim

/-- What a thread refers to is not touched by handles which are issued to others. -/
theorem Ready.mono {point : CallPoint} {before after : UInt64} {issued more : List UInt64}
    (ready : point.Ready before issued) (le : before.toNat ≤ after.toNat)
    (unissued : ∀ handle, point.handle? = some handle → handle.raw ∉ issued →
      handle.raw ∉ more) : point.Ready after more := by
  cases point with
  | inserting backendId handle data =>
      rcases ready with ⟨isCompress, identifier, below, unused⟩
      exact ⟨isCompress, identifier, below.trans_le le, unissued handle rfl unused⟩
  | idle | called | checking | numbering | loading | freeing | counting | returning =>
      exact ready

end CallPoint

variable {Thread : Type u} {codec : Lz4}

/-- The library after it has been initialised; the memory backend never gets a page. -/
def Library.ofCompress (backend : CompressBackend codec) : Library codec :=
  ⟨some (.ofBackends (unused codec) (.compress backend))⟩

section DuvmFreePage

variable (backend : CompressBackend codec) {raw : UInt64}

theorem Library.duvmFreePage_compress (isCompress : (⟨raw⟩ : PageHandle).backendId = 1) :
    ∃ after, duvmFreePage (.ofCompress backend) raw = (0, .ofCompress after) ∧
      after.toPageTable = backend.toPageTable.remove (⟨raw⟩ : PageHandle).offset := by
  rcases CompressBackend.freePage_eq backend ⟨raw⟩ with ⟨after, frees, removed⟩
  refine ⟨after, ?_, removed⟩
  simp only [duvmFreePage, ofCompress, Pool.free, Pool.lookup_ofBackends, isCompress, if_true,
    LocalBackend.freePage_compress, frees, Prod.map_apply, Pool.setBackend_compress]
  rfl

theorem Library.duvmFreePage_memory (isMemory : (⟨raw⟩ : PageHandle).backendId = 0) :
    duvmFreePage (.ofCompress backend) raw = (0, .ofCompress backend) := by
  simp only [duvmFreePage, ofCompress, Pool.free, Pool.lookup_ofBackends, isMemory]
  rfl

theorem Library.duvmFreePage_unknown (notMemory : (⟨raw⟩ : PageHandle).backendId ≠ 0)
    (notCompress : (⟨raw⟩ : PageHandle).backendId ≠ 1) :
    duvmFreePage (.ofCompress backend) raw = (-1, .ofCompress backend) := by
  simp only [duvmFreePage, ofCompress, Pool.free, Pool.lookup_ofBackends, notMemory, notCompress,
    if_false]

end DuvmFreePage

/-- The library has not been initialised, and no thread has got a pool. -/
structure Unopened (library : Library codec) (threads : Thread → CallPoint) : Prop where
  library : library.globalPool = none
  outside : ∀ thread, (threads thread).Outside

/-- The compression backend keeps the pages, and every handle is with one thread, or given out. -/
structure Shelved (library : Library codec) (threads : Thread → CallPoint) (contents : Contents)
    (backend : CompressBackend codec) : Prop where
  library : library = .ofCompress backend
  limit : backend.maxPages = defaultMaxPages
  identifier : backend.backendId = 1
  decodes : backend.toPageTable.Decodes (CompressBackend.decode codec)
  few : backend.nextOffset.toNat ≤ PageHandle.offsetLimit
  pages : ∀ raw, contents.pages.lookup raw = pageUnder (.compress backend) raw
  used : HashMap.size contents.pages = HashMap.size backend.pages
  inTable : ∀ offset ∈ backend.pages, offset.toNat < backend.nextOffset.toNat
  kept : ∀ raw ∈ contents.pages, raw ∈ contents.issued
  given : ∀ raw ∈ contents.issued, (⟨raw⟩ : PageHandle).backendId = 1 ∧
    (⟨raw⟩ : PageHandle).offset.toNat < backend.nextOffset.toNat
  ready : ∀ thread, (threads thread).Ready backend.nextOffset contents.issued
  apart : ∀ {left right : Thread} {handle : PageHandle}, (threads left).handle? = some handle →
    (threads right).handle? = some handle → left = right

/-- What a single caller would see of the process. -/
def Abstracts (process : Process Thread codec) : Option Contents → Prop
  | none => Unopened process.library process.threads
  | some contents => ∃ backend, Shelved process.library process.threads contents backend

namespace Shelved

variable {library : Library codec} {threads : Thread → CallPoint} {contents : Contents}
  {backend : CompressBackend codec}

/-- The library has just been initialised. -/
theorem new (outside : ∀ thread, (threads thread).Outside) :
    Shelved ⟨some (.standalone codec)⟩ threads ⟨∅, []⟩ (.new 1 defaultMaxPages) where
  library := rfl
  limit := rfl
  identifier := rfl
  decodes := fun _ _ found => by cases found
  few := Nat.zero_le _
  pages := (represents_start codec).pages
  used := rfl
  inTable := fun _ listed => by cases listed
  kept := fun _ listed => by cases listed
  given := fun _ listed => by cases listed
  ready := fun thread => ((outside thread).ready _ _).1
  apart := by
    intro left right handle isLeft _
    rw [((outside left).ready 0 []).2] at isLeft
    cases isLeft

variable {after : CompressBackend codec}

/-- The page behind a handle is removed, if there is one. -/
theorem freed (shelved : Shelved library threads contents backend) {raw : UInt64}
    (isCompress : (⟨raw⟩ : PageHandle).backendId = 1)
    (removed : after.toPageTable = backend.toPageTable.remove (⟨raw⟩ : PageHandle).offset) :
    Shelved (.ofCompress after) threads
      ⟨contents.pages.erase raw, contents.issued⟩ after := by
  have found := shelved.pages raw
  rw [pageUnder, if_pos isCompress] at found
  have clears : LawfulBackend.slots (.compress after : LocalBackend codec) =
      (LawfulBackend.slots (.compress backend : LocalBackend codec)).clear
        (⟨raw⟩ : PageHandle).offset := by
    have inTable := PageTable.slots_remove shelved.decodes (⟨raw⟩ : PageHandle).offset
    rw [← removed] at inTable
    exact inTable
  have isNext : after.nextOffset = backend.nextOffset := by rw [removed]; rfl
  refine ⟨rfl, ?_, ?_, ?_, ?_, ?_, ?_, ?_, ?_, ?_, ?_, shelved.apart⟩
  · rw [removed]
    exact shelved.limit
  · rw [removed]
    exact shelved.identifier
  · rw [removed]
    exact shelved.decodes.remove _
  · rw [isNext]
    exact shelved.few
  · intro other
    have updated := Represents.pageUnder_update isCompress (congrArg Slots.page clears) other
    rw [HashMap.lookup_erase_eq_ite, updated, shelved.pages]
  · have count : HashMap.size after.pages = _ := congrArg Slots.used clears
    rw [count, Slots.clear]
    simp only [← found, AList.lookup_isSome]
    split
    · next listed =>
        have fewer := HashMap.size_erase_of_mem listed
        have same := shelved.used
        change _ = HashMap.size backend.pages - 1
        omega
    · next unlisted =>
        rw [HashMap.erase_of_notMem unlisted]
        exact shelved.used
  · intro offset listed
    rw [removed] at listed
    rw [isNext]
    exact shelved.inTable offset (AList.mem_erase.mp listed).2
  · intro other listed
    exact shelved.kept other (AList.mem_erase.mp listed).2
  · intro other listed
    rw [isNext]
    exact shelved.given other listed
  · intro thread
    rw [isNext]
    exact shelved.ready thread

/-- A free of a handle of the memory backend removes nothing. -/
theorem erase_of_elsewhere (shelved : Shelved library threads contents backend) {raw : UInt64}
    (elsewhere : (⟨raw⟩ : PageHandle).backendId ≠ 1) :
    (⟨contents.pages.erase raw, contents.issued⟩ : Contents) = contents := by
  have absent : raw ∉ contents.pages := fun listed =>
    elsewhere (shelved.given raw (shelved.kept raw listed)).1
  rw [HashMap.erase_of_notMem absent]

/-- The table is not larger than the counter. -/
theorem size_le (shelved : Shelved library threads contents backend) :
    HashMap.size backend.pages ≤ backend.nextOffset.toNat := by
  have within : (backend.pages.keys.map UInt64.toNat).toFinset ⊆
      Finset.range backend.nextOffset.toNat := by
    intro offset listed
    simp only [List.mem_toFinset, List.mem_map] at listed
    rcases listed with ⟨key, listed, rfl⟩
    exact Finset.mem_range.mpr (shelved.inTable key listed)
  have distinct : (backend.pages.keys.map UInt64.toNat).Nodup :=
    (AList.keys_nodup backend.pages).map fun _ _ same => UInt64.toNat_inj.mp same
  have counted := Finset.card_le_card within
  rw [List.toFinset_card_of_nodup distinct, List.length_map, Finset.card_range] at counted
  exact counted

theorem isFull_iff (shelved : Shelved library threads contents backend) :
    backend.toPageTable.isFull = true ↔
      defaultMaxPages.toNat ≤ HashMap.size contents.pages := by
  have small := shelved.size_le.trans shelved.few
  have limit : PageHandle.offsetLimit = 2 ^ 56 := rfl
  have count : backend.toPageTable.len.toNat = HashMap.size backend.pages := by
    have size : UInt64.size = 2 ^ 64 := rfl
    rw [PageTable.len, UInt64.toNat_ofNat_of_lt']
    omega
  rw [PageTable.isFull, decide_eq_true_eq, ge_iff_le, UInt64.le_iff_toNat_le, shelved.limit, count,
    shelved.used]

/-- A load finds what a single caller would see, whichever backend the handle names. -/
theorem duvmLoadPage_eq (shelved : Shelved (.ofCompress backend) threads contents backend)
    (raw : UInt64) (buf : PageBuffer) :
    Library.duvmLoadPage (.ofCompress backend) raw (some buf) =
      match contents.pages.lookup raw with
      | some data => (0, some data, .ofCompress backend)
      | none => (-1, some buf, .ofCompress backend) := by
  rw [shelved.pages, pageUnder]
  by_cases isCompress : (⟨raw⟩ : PageHandle).backendId = 1
  · have loads := CompressBackend.loadPage_of_decodes shelved.decodes ⟨raw⟩
    have slots : LawfulBackend.slots (.compress backend : LocalBackend codec) =
        backend.toPageTable.slots (CompressBackend.decode codec) := rfl
    simp only [Library.duvmLoadPage, Library.ofCompress, Pool.load, Pool.lookup_ofBackends,
      isCompress, if_true, LocalBackend.loadPage_compress, loads, Prod.map_apply,
      Pool.setBackend_compress, slots]
    cases (backend.toPageTable.slots (CompressBackend.decode codec)).page
        (⟨raw⟩ : PageHandle).offset with
    | some data => rfl
    | none => rfl
  · by_cases isMemory : (⟨raw⟩ : PageHandle).backendId = 0
    · simp only [Library.duvmLoadPage, Library.ofCompress, Pool.load, Pool.lookup_ofBackends,
        isMemory]
      rfl
    · simp only [Library.duvmLoadPage, Library.ofCompress, Pool.load, Pool.lookup_ofBackends,
        isCompress, isMemory, if_false]

variable [DecidableEq Thread] {thread : Thread}

/-- A thread goes on, to a point at which it has no handle of its own. -/
theorem moved (shelved : Shelved library threads contents backend) (thread : Thread)
    {point : CallPoint} (ready : point.Ready backend.nextOffset contents.issued)
    (without : point.handle? = none) :
    Shelved library (update threads thread point) contents backend := by
  refine { shelved with ready := ?_, apart := ?_ }
  · intro other
    rw [Function.update_apply]
    split
    · exact ready
    · exact shelved.ready other
  · intro left right handle isLeft isRight
    rw [Function.update_apply] at isLeft isRight
    split at isLeft
    · rw [without] at isLeft
      cases isLeft
    · split at isRight
      · rw [without] at isRight
        cases isRight
      · exact shelved.apart isLeft isRight

/-- A handle of which the thread is the only one to know is taken from the counter. -/
theorem numbered (shelved : Shelved library threads contents backend) {data : PageBuffer}
    {handle : PageHandle}
    (taken : backend.toPageTable.takeHandle = some (handle, after.toPageTable)) (thread : Thread) :
    Shelved (.ofCompress after) (update threads thread (.inserting 1 handle data)) contents
      after := by
  rcases after with ⟨table, raw, compressed⟩
  simp only [PageTable.takeHandle, Option.map_eq_some_iff, Prod.mk.injEq] at taken
  rcases taken with ⟨handle, created, rfl, rfl⟩
  rcases PageTable.fits_of_new created with ⟨fits, next⟩
  have isCompress := PageHandle.backendId_of_new created
  have isOffset := PageHandle.offset_of_new created
  rw [shelved.identifier] at isCompress
  have others : ∀ other, ¬ (threads other).handle? = some handle := by
    intro other hasHandle
    cases atPoint : threads other with
    | inserting backendId reserved data =>
        have ready := shelved.ready other
        rw [atPoint] at ready hasHandle
        cases hasHandle
        have below := ready.2.2.1
        rw [isOffset] at below
        exact absurd below (lt_irrefl _)
    | idle | called | checking | numbering | loading | freeing | counting | returning =>
        simp [atPoint, CallPoint.handle?] at hasHandle
  refine { shelved with
    library := rfl
    few := ?_
    inTable := ?_
    given := ?_
    ready := ?_
    apart := ?_ }
  · simp only
    omega
  · intro offset listed
    have below := shelved.inTable offset listed
    simp only
    omega
  · intro raw listed
    have below := shelved.given raw listed
    refine ⟨below.1, ?_⟩
    simp only
    omega
  · intro other
    rw [Function.update_apply]
    split
    · refine ⟨rfl, isCompress, ?_, ?_⟩
      · rw [isOffset]
        simp only
        omega
      · intro listed
        have below : handle.offset.toNat < _ := (shelved.given _ listed).2
        rw [isOffset] at below
        exact absurd below (lt_irrefl _)
    · exact (shelved.ready other).mono (by simp only; omega) fun _ _ => id
  · intro left right reserved isLeft isRight
    rw [Function.update_apply] at isLeft isRight
    split at isLeft
    · next leftHere =>
        cases isLeft
        split at isRight
        · next rightHere => exact leftHere.trans rightHere.symm
        · exact absurd isRight (others right)
    · split at isRight
      · cases isRight
        exact absurd isLeft (others left)
      · exact shelved.apart isLeft isRight

/-- The page behind a handle is inserted. -/
theorem stored (shelved : Shelved library threads contents backend) {handle : PageHandle}
    {data : PageBuffer} (atPoint : threads thread = .inserting 1 handle data)
    (inserted : after.toPageTable = backend.toPageTable.insert handle.offset
      (codec.compressPrependSize data.toList)) :
    Shelved (.ofCompress after)
      (update threads thread (.returning (.handle handle.raw)))
      ⟨contents.pages.insert handle.raw data, handle.raw :: contents.issued⟩ after := by
  have ready := shelved.ready thread
  rw [atPoint] at ready
  rcases ready with ⟨_, isCompress, below, unissued⟩
  have absent : handle.raw ∉ contents.pages := fun listed => unissued (shelved.kept _ listed)
  have noPage : (backend.toPageTable.slots (CompressBackend.decode codec)).page handle.offset =
      none := by
    have found := shelved.pages handle.raw
    rw [AList.lookup_eq_none.mpr absent, pageUnder, if_pos isCompress] at found
    exact found.symm
  have isData := CompressBackend.decode_compressed codec data
  have puts : LawfulBackend.slots (.compress after : LocalBackend codec) =
      (LawfulBackend.slots (.compress backend : LocalBackend codec)).put handle.offset data := by
    have inTable := PageTable.slots_insert shelved.decodes isData noPage
    rw [← inserted] at inTable
    exact inTable
  have isNext : after.nextOffset = backend.nextOffset := by rw [inserted]; rfl
  refine ⟨rfl, ?_, ?_, ?_, ?_, ?_, ?_, ?_, ?_, ?_, ?_, ?_⟩
  · rw [inserted]
    exact shelved.limit
  · rw [inserted]
    exact shelved.identifier
  · rw [inserted]
    exact shelved.decodes.insert (by rw [isData]; rfl)
  · rw [isNext]
    exact shelved.few
  · intro other
    have updated := Represents.pageUnder_update isCompress (congrArg Slots.page puts) other
    rw [HashMap.lookup_insert_eq_ite, updated, shelved.pages]
  · have count := congrArg Slots.used puts
    rw [HashMap.size_insert_of_notMem data absent, shelved.used]
    exact count.symm
  · intro offset listed
    rw [inserted] at listed
    rw [isNext]
    rcases (AList.mem_insert _).mp listed with rfl | old
    · exact below
    · exact shelved.inTable offset old
  · intro raw listed
    rcases (AList.mem_insert _).mp listed with rfl | old
    · exact List.mem_cons_self
    · exact List.mem_cons_of_mem _ (shelved.kept raw old)
  · intro raw listed
    rw [isNext]
    rcases List.mem_cons.mp listed with rfl | old
    · exact ⟨isCompress, below⟩
    · exact shelved.given raw old
  · intro other
    rw [Function.update_apply, isNext]
    split
    · trivial
    · next elsewhere =>
        refine (shelved.ready other).mono le_rfl ?_
        intro reserved isReserved unissued listed
        rcases List.mem_cons.mp listed with same | old
        · have sameHandle : reserved = handle := by
            cases reserved
            cases handle
            exact congrArg PageHandle.mk same
          rw [sameHandle] at isReserved
          exact elsewhere (shelved.apart isReserved (by rw [atPoint]; rfl))
        · exact unissued old
  · have settled : Shelved library (update threads thread (.returning (.handle handle.raw)))
        contents backend := shelved.moved thread trivial rfl
    intro left right reserved isLeft isRight
    exact settled.apart isLeft isRight

end Shelved

namespace Process

variable [DecidableEq Thread] {process : Process Thread codec} {library : Library codec}
  {thread : Thread} {point : CallPoint} {contents : Contents} {backend : CompressBackend codec}
  {state after : Option Contents} {order : IterOrder UInt8}

/-- The process after an access of a thread. -/
def accessed (process : Process Thread codec) (thread : Thread) (library : Library codec)
    (point : CallPoint) : Process Thread codec :=
  { process with library, threads := update process.threads thread point }

def phases (process : Process Thread codec) (thread : Thread) : Phase ApiCall ApiReply :=
  (process.threads thread).phase

theorem phases_update (threads : Thread → CallPoint)
    (history : List (Event Thread ApiCall ApiReply)) :
    (⟨library, update threads thread point, history⟩ : Process Thread codec).phases =
      update (fun other => (threads other).phase) thread point.phase := by
  funext other
  simp only [phases, Function.update_apply]
  split
  · rfl
  · rfl

theorem marked_of_point {call : ApiCall} {reply : ApiReply}
    (pending : (process.threads thread).phase = .pending call)
    (answered : point.phase = .answered reply) (serves : Serves state (call, reply) after)
    (abstracts : Abstracts (process.accessed thread library point) after) :
    Marked history phases Serves Abstracts process state
      (process.accessed thread library point) :=
  .of_point pending (by rw [accessed, phases_update, answered]; rfl) serves rfl abstracts

theorem marked_of_silent (same : point.phase = (process.threads thread).phase)
    (abstracts : Abstracts (process.accessed thread library point) state) :
    Marked history phases Serves Abstracts process state
      (process.accessed thread library point) :=
  .of_silent (by rw [accessed, phases_update, same]; exact Function.update_eq_self _ _) rfl
    abstracts

/-- Before the library is initialised, a call takes effect at once. -/
theorem marked_of_unopened (unopened : Unopened process.library process.threads)
    (access : (process.threads thread).advance order process.library = some (library, point)) :
    Marked history phases Serves Abstracts process none
      (process.accessed thread library point) := by
  have outside : ∀ reply other,
      (update process.threads thread (.returning reply) other).Outside := by
    intro reply other
    rw [Function.update_apply]
    split
    · trivial
    · exact unopened.outside other
  have isOutside := unopened.outside thread
  have closed : process.library = ⟨none⟩ := by
    rcases process with ⟨⟨pool⟩, threads, history⟩
    exact congrArg Library.mk unopened.library
  cases atPoint : process.threads thread with
  | idle | returning => simp [atPoint, CallPoint.advance] at access
  | checking | numbering | inserting | loading | freeing | counting =>
      rw [atPoint] at isOutside
      exact isOutside.elim
  | called call =>
      have pending : (process.threads thread).phase = .pending call :=
        congrArg CallPoint.phase atPoint
      rw [atPoint, closed] at access
      cases call with
      | init =>
          cases access
          exact marked_of_point pending rfl .opened ⟨_, .new (outside _)⟩
      | storePage data =>
          cases data with
          | none =>
              cases access
              exact marked_of_point pending rfl .nullStore ⟨rfl, outside _⟩
          | some data =>
              cases access
              exact marked_of_point pending rfl .unopenedStore ⟨rfl, outside _⟩
      | loadPage handle buf =>
          cases buf with
          | none =>
              cases access
              exact marked_of_point pending rfl .nullLoad ⟨rfl, outside _⟩
          | some buf =>
              cases access
              exact marked_of_point pending rfl .unopenedLoad ⟨rfl, outside _⟩
      | freePage handle =>
          cases access
          exact marked_of_point pending rfl .unopenedFree ⟨rfl, outside _⟩
      | capacity quantity =>
          cases access
          exact marked_of_point pending rfl .unopenedCapacity ⟨rfl, outside _⟩

section Opened

variable (shelved : Shelved (.ofCompress backend) process.threads contents backend)

include shelved

/-- A thread has its reply, without having changed the library. -/
theorem abstracts_returning (reply : ApiReply) :
    Abstracts (process.accessed thread (.ofCompress backend) (.returning reply))
      (some contents) :=
  ⟨backend, shelved.moved thread trivial rfl⟩

/-- The arguments of a call are looked at, and the pool is got. -/
theorem marked_of_called {call : ApiCall} (atPoint : process.threads thread = .called call)
    (access : (CallPoint.called call).advance order (.ofCompress backend) = some (library, point)) :
    Marked history phases Serves Abstracts process (some contents)
      (process.accessed thread library point) := by
  have pending : (process.threads thread).phase = .pending call :=
    congrArg CallPoint.phase atPoint
  cases call with
  | init =>
      cases access
      exact marked_of_point pending rfl .openedBefore (abstracts_returning shelved _)
  | storePage data =>
      cases data with
      | none =>
          cases access
          exact marked_of_point pending rfl .nullStore (abstracts_returning shelved _)
      | some data =>
          cases access
          exact marked_of_silent pending.symm ⟨backend, shelved.moved thread rfl rfl⟩
  | loadPage handle buf =>
      cases buf with
      | none =>
          cases access
          exact marked_of_point pending rfl .nullLoad (abstracts_returning shelved _)
      | some buf =>
          cases access
          exact marked_of_silent pending.symm ⟨backend, shelved.moved thread trivial rfl⟩
  | freePage handle =>
      cases access
      exact marked_of_silent pending.symm ⟨backend, shelved.moved thread trivial rfl⟩
  | capacity quantity =>
      cases access
      refine marked_of_silent ?_ ⟨backend, shelved.moved thread ?_ rfl⟩
      · rw [pending]
        exact if_pos (order.mem_order.mpr List.mem_cons_self)
      · rcases List.perm_pair.mp (order.perm [1, 0]) with listed | listed
        · exact Or.inl ⟨listed, rfl⟩
        · exact Or.inr (Or.inr (Or.inl ⟨listed, rfl⟩))

variable {backendId : UInt8} {data : PageBuffer} {sums : UInt64 × UInt64}

/-- `alloc_page` finds the backend full, or not. -/
theorem marked_of_checking (atPoint : process.threads thread = .checking backendId data)
    (access : (CallPoint.checking backendId data).advance order (.ofCompress backend) =
      some (library, point)) :
    Marked history phases Serves Abstracts process (some contents)
      (process.accessed thread library point) := by
  have pending : (process.threads thread).phase = .pending (.storePage (some data)) :=
    congrArg CallPoint.phase atPoint
  have isCompress := shelved.ready thread
  rw [atPoint] at isCompress
  cases isCompress
  cases full : backend.toPageTable.isFull with
  | true =>
      have isFull : (LocalBackend.compress backend).isFull = true := full
      have found : Library.backend (.ofCompress backend) 1 = some (.compress backend) := rfl
      rw [CallPoint.advance, found, Option.map_some, if_pos isFull] at access
      cases access
      exact marked_of_point pending rfl (.full (shelved.isFull_iff.mp full))
        (abstracts_returning shelved _)
  | false =>
      have hasRoom : (LocalBackend.compress backend).isFull = false := full
      have found : Library.backend (.ofCompress backend) 1 = some (.compress backend) := rfl
      rw [CallPoint.advance, found, Option.map_some, hasRoom] at access
      cases access
      exact marked_of_silent pending.symm ⟨backend, shelved.moved thread rfl rfl⟩

/-- The number of a page is taken. -/
theorem marked_of_numbering (atPoint : process.threads thread = .numbering backendId data)
    (access : (CallPoint.numbering backendId data).advance order (.ofCompress backend) =
      some (library, point)) :
    Marked history phases Serves Abstracts process (some contents)
      (process.accessed thread library point) := by
  have isCompress := shelved.ready thread
  rw [atPoint] at isCompress
  cases isCompress
  have found : Library.backend (.ofCompress backend) 1 = some (.compress backend) := rfl
  rw [CallPoint.advance, found, Option.bind_some, LocalBackend.takeHandle, Option.map_map,
    Option.map_eq_some_iff] at access
  rcases access with ⟨⟨handle, table⟩, taken, ⟨⟩⟩
  refine marked_of_silent (by rw [atPoint]; rfl) ⟨{ backend with toPageTable := table }, ?_⟩
  exact shelved.numbered taken thread

/-- The page is inserted. -/
theorem marked_of_inserting {handle : PageHandle}
    (atPoint : process.threads thread = .inserting backendId handle data)
    (access : (CallPoint.inserting backendId handle data).advance order (.ofCompress backend) =
      some (library, point)) :
    Marked history phases Serves Abstracts process (some contents)
      (process.accessed thread library point) := by
  have ready := shelved.ready thread
  rw [atPoint] at ready
  rcases ready with ⟨rfl, isCompress, below, unissued⟩
  have valid : handle.raw ≠ noHandle := by
    intro isNone
    have impossible : (⟨noHandle⟩ : PageHandle).backendId = 1 := isNone ▸ isCompress
    exact absurd impossible (by decide)
  cases access
  refine marked_of_point (by rw [atPoint]; rfl) rfl (.stored unissued valid)
    ⟨(backend.storePage handle data).2, ?_⟩
  exact shelved.stored atPoint rfl

/-- A page is looked up. -/
theorem marked_of_loading {raw : UInt64} {buf : PageBuffer}
    (atPoint : process.threads thread = .loading raw buf)
    (access : (CallPoint.loading raw buf).advance order (.ofCompress backend) =
      some (library, point)) :
    Marked history phases Serves Abstracts process (some contents)
      (process.accessed thread library point) := by
  have pending : (process.threads thread).phase = .pending (.loadPage raw (some buf)) :=
    congrArg CallPoint.phase atPoint
  rw [CallPoint.advance, shelved.duvmLoadPage_eq] at access
  cases found : contents.pages.lookup raw with
  | some data =>
      rw [found] at access
      cases access
      exact marked_of_point pending rfl (.loaded found) (abstracts_returning shelved _)
  | none =>
      rw [found] at access
      cases access
      exact marked_of_point pending rfl (.missing found) (abstracts_returning shelved _)

/-- A page is removed. -/
theorem marked_of_freeing {raw : UInt64} (atPoint : process.threads thread = .freeing raw)
    (access : (CallPoint.freeing raw).advance order (.ofCompress backend) = some (library, point)) :
    Marked history phases Serves Abstracts process (some contents)
      (process.accessed thread library point) := by
  have pending : (process.threads thread).phase = .pending (.freePage raw) :=
    congrArg CallPoint.phase atPoint
  by_cases isCompress : (⟨raw⟩ : PageHandle).backendId = 1
  · rcases Library.duvmFreePage_compress backend isCompress with ⟨after, freed, removed⟩
    rw [CallPoint.advance, freed] at access
    cases access
    exact marked_of_point pending rfl (.freed (Or.inr isCompress))
      ⟨after, (shelved.freed isCompress removed).moved thread trivial rfl⟩
  · by_cases isMemory : (⟨raw⟩ : PageHandle).backendId = 0
    · rw [CallPoint.advance, Library.duvmFreePage_memory backend isMemory] at access
      cases access
      refine marked_of_point pending rfl (.freed (Or.inl isMemory)) ?_
      rw [shelved.erase_of_elsewhere isCompress]
      exact abstracts_returning shelved _
    · rw [CallPoint.advance, Library.duvmFreePage_unknown backend isMemory isCompress] at access
      cases access
      exact marked_of_point pending rfl (.unknownFree isMemory isCompress)
        (abstracts_returning shelved _)

omit [DecidableEq Thread] in
/-- The sums come out right, whichever backend is added first. -/
theorem capacity_eq {rest : List UInt8}
    (ready : (rest = [0] ∧ sums = (0, 0)) ∨ (rest = [] ∧ sums = addMemory (0, 0))) :
    rest.foldl (fun sums _ => addMemory sums) (addCapacity sums (.compress backend)) =
      (2 * defaultMaxPages, UInt64.ofNat (HashMap.size contents.pages)) := by
  have total : (DuvmBackend.capacity (.compress backend : LocalBackend codec)).1 =
      defaultMaxPages := by
    rw [LocalBackend.fst_capacity, LocalBackend.maxPages, shelved.limit]
  have used : (DuvmBackend.capacity (.compress backend : LocalBackend codec)).2 =
      UInt64.ofNat (HashMap.size contents.pages) := by
    rw [shelved.used]
    rfl
  rcases ready with ⟨rfl, rfl⟩ | ⟨rfl, rfl⟩
  · simp only [List.foldl_cons, List.foldl_nil, addMemory, addCapacity, total, used,
      zero_saturatingAdd, saturatingAdd_zero, saturatingAdd_defaultMaxPages]
  · simp only [List.foldl_nil, addMemory, addCapacity, total, used, zero_saturatingAdd,
      saturatingAdd_defaultMaxPages]

/-- The compression backend is added to the capacity, which decides. -/
theorem marked_of_counting_compress {rest : List UInt8} {quantity : Quantity}
    (atPoint : process.threads thread = .counting (1 :: rest) sums quantity)
    (ready : (rest = [0] ∧ sums = (0, 0)) ∨ (rest = [] ∧ sums = addMemory (0, 0)))
    (access : (CallPoint.counting (1 :: rest) sums quantity).advance order (.ofCompress backend) =
      some (library, point)) :
    Marked history phases Serves Abstracts process (some contents)
      (process.accessed thread library point) := by
  have found : Library.backend (.ofCompress backend) 1 = some (.compress backend) := rfl
  rw [CallPoint.advance, found, Option.map_some, Option.some.injEq, Prod.mk.injEq] at access
  rcases access with ⟨rfl, rfl⟩
  have pending : (process.threads thread).phase = .pending (.capacity quantity) := by
    simp [atPoint, CallPoint.phase]
  have decided : (CallPoint.counting rest (addCapacity sums (.compress backend)) quantity).phase =
      .answered (.pages (quantity.select
        (2 * defaultMaxPages, UInt64.ofNat (HashMap.size contents.pages)))) := by
    have without : 1 ∉ rest := by
      rcases ready with ⟨rfl, _⟩ | ⟨rfl, _⟩
      · decide
      · decide
    rw [CallPoint.phase, if_neg without, capacity_eq shelved ready]
  have stays : Abstracts (process.accessed thread (.ofCompress backend)
      (.counting rest (addCapacity sums (.compress backend)) quantity)) (some contents) := by
    refine ⟨backend, shelved.moved thread ?_ rfl⟩
    rcases ready with ⟨rfl, _⟩ | ⟨rfl, _⟩
    · simp [CallPoint.Ready]
    · simp [CallPoint.Ready]
  cases quantity with
  | total => exact marked_of_point pending decided .total stays
  | used => exact marked_of_point pending decided .used stays

theorem marked_of_counting {backends : List UInt8} {quantity : Quantity}
    (atPoint : process.threads thread = .counting backends sums quantity)
    (access : (CallPoint.counting backends sums quantity).advance order (.ofCompress backend) =
      some (library, point)) :
    Marked history phases Serves Abstracts process (some contents)
      (process.accessed thread library point) := by
  have found : Library.backend (.ofCompress backend) 0 = some (unused codec) := rfl
  have ready := shelved.ready thread
  rw [atPoint] at ready
  rcases ready with ⟨rfl, isSums⟩ | ⟨rfl, isSums⟩ | ⟨rfl, rfl⟩ | rfl | rfl
  · exact marked_of_counting_compress shelved atPoint (Or.inl ⟨rfl, isSums⟩) access
  · exact marked_of_counting_compress shelved atPoint (Or.inr ⟨rfl, isSums⟩) access
  · rw [CallPoint.advance, found, Option.map_some, Option.some.injEq, Prod.mk.injEq,
      addCapacity_unused] at access
    rcases access with ⟨rfl, rfl⟩
    refine marked_of_silent (by simp [atPoint, CallPoint.phase]) ?_
    exact ⟨backend, shelved.moved thread (Or.inr (Or.inl ⟨rfl, rfl⟩)) rfl⟩
  · rw [CallPoint.advance, found, Option.map_some, Option.some.injEq, Prod.mk.injEq,
      addCapacity_unused] at access
    rcases access with ⟨rfl, rfl⟩
    refine marked_of_silent (by simp [atPoint, CallPoint.phase]) ?_
    exact ⟨backend, shelved.moved thread (by simp [CallPoint.Ready]) rfl⟩
  · rw [CallPoint.advance, Option.some.injEq, Prod.mk.injEq] at access
    rcases access with ⟨rfl, rfl⟩
    exact marked_of_silent (by simp [atPoint, CallPoint.phase]) (abstracts_returning shelved _)

end Opened

/-- A thread calls, or returns. -/
theorem abstracts_outside (abstracts : Abstracts process state) (outside : point.Outside)
    (history : List (Event Thread ApiCall ApiReply)) :
    Abstracts ⟨process.library, update process.threads thread point, history⟩ state := by
  cases state with
  | none =>
      refine ⟨abstracts.library, ?_⟩
      intro other
      simp only [Function.update_apply]
      split
      · exact outside
      · exact abstracts.outside other
  | some contents =>
      rcases abstracts with ⟨backend, shelved⟩
      rcases outside.ready backend.nextOffset contents.issued with ⟨ready, without⟩
      exact ⟨backend, shelved.moved thread ready without⟩

theorem marked_of_step {next : Process Thread codec} {action : ThreadAction Thread}
    (abstracts : Abstracts process state) (stepped : process.step order action = some next) :
    Marked history phases Serves Abstracts process state next := by
  cases stepped_of_step stepped with
  | @called thread call atIdle =>
      refine @Marked.of_called _ _ _ _ _ _ _ _ _ _ _ _ _ _ _ thread call ?_ ?_ rfl
        (abstracts_outside abstracts (show (CallPoint.called call).Outside from trivial) _)
      · rw [phases, atIdle]
        rfl
      · rw [phases_update]
        rfl
  | @returned thread reply atReturn =>
      refine @Marked.of_returned _ _ _ _ _ _ _ _ _ _ _ _ _ _ _ thread reply ?_ ?_ rfl
        (abstracts_outside abstracts (show CallPoint.idle.Outside from trivial) _)
      · rw [phases, atReturn]
        rfl
      · rw [phases_update]
        rfl
  | @advanced thread library point access =>
      cases state with
      | none => exact marked_of_unopened abstracts access
      | some contents =>
          rcases abstracts with ⟨backend, shelved⟩
          rw [shelved.library] at access shelved
          cases atPoint : process.threads thread with
          | idle | returning => simp [atPoint, CallPoint.advance] at access
          | called call => exact marked_of_called shelved atPoint (atPoint ▸ access)
          | checking backendId data => exact marked_of_checking shelved atPoint (atPoint ▸ access)
          | numbering backendId data =>
              exact marked_of_numbering shelved atPoint (atPoint ▸ access)
          | inserting backendId handle data =>
              exact marked_of_inserting shelved atPoint (atPoint ▸ access)
          | loading raw buf => exact marked_of_loading shelved atPoint (atPoint ▸ access)
          | freeing raw => exact marked_of_freeing shelved atPoint (atPoint ▸ access)
          | counting backends sums quantity =>
              exact marked_of_counting shelved atPoint (atPoint ▸ access)

theorem abstracts_start (Thread : Type u) (codec : Lz4) :
    Abstracts (start Thread codec) none where
  library := rfl
  outside _ := trivial

/-- What is seen of a process which has been started. -/
theorem linearizable_of_start {actions : List (ThreadAction Thread)}
    (ran : Transition.run (step order) (start Thread codec) actions = some process) :
    Linearizable Serves none process.history ∧ ∃ state, Abstracts process state :=
  @linearizable_of_run _ _ _ _ _ _ _ _ _ (step order) history phases Serves Abstracts _ _ _ none
    rfl rfl (abstracts_start Thread codec)
    (fun _ _ _ _ abstracts stepped => marked_of_step abstracts stepped) ran

end Process

/-- Whichever threads call the C interface, and however their accesses are interleaved, they see
one map from handles to pages, in whichever order the backends are visited. Stores at the same time
may fill it beyond its limit. -/
theorem c_interface_linearizable (codec : Lz4) (order : IterOrder UInt8) [DecidableEq Thread]
    (actions : List (ThreadAction Thread)) {process : Process Thread codec}
    (ran : Transition.run (Process.step order) (.start Thread codec) actions = some process) :
    Linearizable Serves none process.history :=
  (Process.linearizable_of_start ran).1

/-- Two threads store a page each, in turns, and a third one frees the first page. -/
def storeInTurns : List (ThreadAction (Fin 3)) :=
  [.call 0 .init, .proceed 0, .proceed 0, .call 0 (.storePage (some countingPage)),
    .call 1 (.storePage (some countingPage.reverse)), .proceed 0, .proceed 1, .proceed 0,
    .proceed 1, .proceed 0, .proceed 1, .proceed 0,
    .call 2 (.freePage (UInt64.ofNat (2 ^ 56))), .proceed 2, .proceed 2, .proceed 1, .proceed 0,
    .proceed 1]

theorem storeInTurns_linearizable :
    ∃ process, Transition.run (Process.step (.listed UInt8)) (.start (Fin 3) .literalLz4)
        storeInTurns = some process ∧
      process.threads 2 = .returning (.code 0) ∧ process.history.length = 7 ∧
      Linearizable Serves none process.history := by
  have ran : (Transition.run (Process.step (.listed UInt8)) (.start (Fin 3) .literalLz4)
      storeInTurns).map (fun process => (process.threads 2, process.history.length)) =
        some (.returning (.code 0), 7) := by
    decide +kernel
  simp only [Option.map_eq_some_iff, Prod.mk.injEq] at ran
  rcases ran with ⟨process, reached, freed, seen⟩
  exact ⟨process, reached, freed, seen,
    c_interface_linearizable .literalLz4 (.listed UInt8) storeInTurns reached⟩

end Libduvm

end Duvm
