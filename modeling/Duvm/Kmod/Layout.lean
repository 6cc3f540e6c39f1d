import Duvm.Kmod.Device
import Duvm.Library.Alignment
import Duvm.Library.LittleEndian

/-!
# The layout of the shared memory

`duvm_ring_init` of `duvm-kmod/src/ring.c` lays out the header, the two rings and
the staging area one after the other in pages of its own, and notes the
parameters in the header. `KmodRingConsumer::open` of `duvm-daemon/src/kmod_ring.rs`
maps the first page through `duvm_ctl_mmap`, reads the parameters, computes the
layout again and maps the whole. Sizes are 64-bit words on both sides, as
`size_t` and `usize` are; the number of pages is kept in 32 bits.

Addresses on the kernel side are relative to where the pages are mapped.
-/

namespace Duvm.Kmod

open Alignment (Struct roundUp)

/-- `struct duvm_request`: `op`, `flags`, `_pad`, `seq`, `pfn`, `offset`, `staging_slot`,
`_reserved`. -/
def duvmRequest : Struct := ⟨true, 64, [.u8, .u8, .bytes 2, .u32, .u64, .u64, .u32, .bytes 28]⟩

/-- `struct duvm_completion`: `seq`, `result`, `handle`, `staging_slot`, `_reserved`. -/
def duvmCompletion : Struct := ⟨true, 64, [.u32, .u32, .u64, .u32, .bytes 40]⟩

/-- `struct duvm_ring_header`: the four indices, each with padding behind it, then `capacity`,
`version`, `staging_pages` and `_reserved`. -/
def duvmRingHeader : Struct :=
  ⟨true, 1, [.u32, .bytes 60, .u32, .bytes 60, .u32, .bytes 60, .u32, .bytes 60,
    .u32, .u32, .u32, .u32]⟩

/-- `PAGE_SIZE` as a word. -/
def pageSize : UInt64 := UInt64.ofNat PAGE_SIZE

/-- `PAGE_ALIGN`. -/
def pageAlign (size : UInt64) : UInt64 := (size + (pageSize - 1)) &&& ~~~(pageSize - 1)

/-- What `duvm_ring_init` notes of its pages: where the parts begin, the size and the number of
the pages, and their contents. -/
structure RingMemory where
  requests : UInt64
  completions : UInt64
  staging : UInt64
  ringSize : UInt64
  nrRingPages : UInt32
  contents : ByteMemory

/-- The words which `duvm_ring_init` writes into the header, in the order of the source. -/
def headerWords (capacity : UInt32) (stagingPages : UInt64) : List (ℕ × UInt32) :=
  [(duvmRingHeader.offsetOf 0, 0), (duvmRingHeader.offsetOf 2, 0),
    (duvmRingHeader.offsetOf 4, 0), (duvmRingHeader.offsetOf 6, 0),
    (duvmRingHeader.offsetOf 8, capacity), (duvmRingHeader.offsetOf 9, 2),
    (duvmRingHeader.offsetOf 10, stagingPages.toUInt32)]

/-- The header in zeroed pages. -/
def initHeader (capacity : UInt32) (stagingPages : UInt64) : ByteMemory :=
  (headerWords capacity stagingPages).foldl
    (fun memory (offset, word) => ByteMemory.writeU32 memory offset word) fun _ => 0

/-- The layout of `duvm_ring_init`, its allocations having succeeded. -/
def layOutRing (capacity : UInt32) (stagingPages : UInt64) : RingMemory :=
  let headerSz := pageSize
  let reqSz := pageAlign (capacity.toUInt64 * UInt64.ofNat duvmRequest.size)
  let compSz := pageAlign (capacity.toUInt64 * UInt64.ofNat duvmCompletion.size)
  let stagingSz := stagingPages * pageSize
  let totalSz := headerSz + reqSz + compSz + stagingSz
  { requests := headerSz
    completions := headerSz + reqSz
    staging := headerSz + reqSz + compSz
    ringSize := totalSz
    nrRingPages := (totalSz / pageSize).toUInt32
    contents := initHeader capacity stagingPages }

/-- A range of user addresses which is to be mapped. -/
structure Vma where
  start : ℕ
  size : UInt64

/-- The pages mapped by a process: the address of each and its number among the ring pages. -/
abbrev Mapping := List (ℕ × ℕ)

/-- The loop of `duvm_ctl_mmap`, for so many pages from the given one on; `none` if
`vm_insert_page` fails. -/
def insertPages (inserts : ℕ → Bool) (stop : ℕ) : ℕ → ℕ → ℕ → Option Mapping
  | 0, _, _ => some []
  | pagesLeft + 1, page, addr =>
      if addr < stop then
        if inserts page then
          (insertPages inserts stop pagesLeft (page + 1) (addr + PAGE_SIZE)).map
            ((addr, page) :: ·)
        else none
      else some []

def duvmCtlMmap (ring : RingMemory) (vma : Vma) (inserts : ℕ → Bool) : Except Errno Mapping :=
  if vma.size > ring.ringSize then .error .einval
  else
    match insertPages inserts (vma.start + vma.size.toNat) ring.nrRingPages.toNat 0 vma.start with
    | none => .error .eagain
    | some mapping => .ok mapping

/-- The memory which a process sees; where nothing is mapped it sees nothing. -/
def Mapping.view (mapping : Mapping) (contents : ByteMemory) : ByteMemory := fun address =>
  match mapping.find? fun (start, _) => start ≤ address ∧ address < start + PAGE_SIZE with
  | some (start, page) => contents (page * PAGE_SIZE + (address - start))
  | none => 0

/-- Where the parts of the shared memory are, and how large the entries of the rings are. -/
structure Places where
  requests : ℕ
  requestSize : ℕ
  completions : ℕ
  completionSize : ℕ
  staging : ℕ
  total : ℕ
deriving DecidableEq

def RingMemory.places (ring : RingMemory) : Places :=
  ⟨ring.requests.toNat, duvmRequest.size, ring.completions.toNat, duvmCompletion.size,
    ring.staging.toNat, ring.ringSize.toNat⟩

/-- A piece of the shared memory which is used for one thing. -/
inductive Area where
  | header
  | request (index : ℕ)
  | completion (index : ℕ)
  | slot (index : ℕ)
deriving DecidableEq

namespace Area

def InRange (capacity : ℕ) : Area → Prop
  | .header => True
  | .request index | .completion index | .slot index => index < capacity

/-- The bytes of an area; the header has a page to itself. -/
def region (places : Places) : Area → Region
  | .header => ⟨0, PAGE_SIZE⟩
  | .request index => .item places.requests places.requestSize index
  | .completion index => .item places.completions places.completionSize index
  | .slot index => .item places.staging PAGE_SIZE index

/-- The array which an area is an item of. -/
def array (places : Places) (capacity : ℕ) : Area → Region
  | .header => ⟨0, PAGE_SIZE⟩
  | .request _ => ⟨places.requests, capacity * places.requestSize⟩
  | .completion _ => ⟨places.completions, capacity * places.completionSize⟩
  | .slot _ => ⟨places.staging, capacity * PAGE_SIZE⟩

/-- The position of that array in the memory. -/
def position : Area → ℕ
  | .header => 0
  | .request _ => 1
  | .completion _ => 2
  | .slot _ => 3

end Area

/-- The parts follow one another without overlap. -/
structure Places.Consecutive (places : Places) (capacity : ℕ) : Prop where
  header : PAGE_SIZE ≤ places.requests
  requests : places.requests + capacity * places.requestSize ≤ places.completions
  completions : places.completions + capacity * places.completionSize ≤ places.staging
  staging : places.staging + capacity * PAGE_SIZE ≤ places.total

namespace Places.Consecutive

variable {places : Places} {capacity : ℕ} {area other : Area}

theorem region_within_array (inRange : area.InRange capacity) :
    (area.region places).Within (area.array places capacity) := by
  cases area with
  | header => exact ⟨le_rfl, le_rfl⟩
  | request index => exact Region.item_within _ _ inRange
  | completion index => exact Region.item_within _ _ inRange
  | slot index => exact Region.item_within _ _ inRange

theorem array_apart (consecutive : places.Consecutive capacity)
    (before : area.position < other.position) :
    (area.array places capacity).Apart (other.array places capacity) := by
  rcases consecutive with ⟨header, requests, completions, staging⟩
  left
  cases area <;> cases other <;> simp only [Area.position, Area.array] at before ⊢ <;> omega

/-- Different areas do not share a byte. -/
theorem region_apart (consecutive : places.Consecutive capacity)
    (inRange : area.InRange capacity) (otherInRange : other.InRange capacity)
    (different : area ≠ other) : (area.region places).Apart (other.region places) := by
  have within := @region_within_array places capacity area inRange
  have otherWithin := @region_within_array places capacity other otherInRange
  rcases Nat.lt_trichotomy area.position other.position with before | same | after
  · exact ((((consecutive.array_apart before).of_within within).symm).of_within otherWithin).symm
  · cases area with
    | header =>
        cases other with
        | header => exact absurd rfl different
        | request | completion | slot => simp [Area.position] at same
    | request index =>
        cases other with
        | request => exact Region.item_apart _ _ fun equal => different (by rw [equal])
        | header | completion | slot => simp [Area.position] at same
    | completion index =>
        cases other with
        | completion => exact Region.item_apart _ _ fun equal => different (by rw [equal])
        | header | request | slot => simp [Area.position] at same
    | slot index =>
        cases other with
        | slot => exact Region.item_apart _ _ fun equal => different (by rw [equal])
        | header | request | completion => simp [Area.position] at same
  · exact (((consecutive.array_apart after).of_within otherWithin).symm).of_within within

theorem region_within (consecutive : places.Consecutive capacity)
    (inRange : area.InRange capacity) :
    (area.region places).Within ⟨0, places.total⟩ := by
  have within := @region_within_array places capacity area inRange
  rcases consecutive with ⟨header, requests, completions, staging⟩
  refine ⟨Nat.zero_le _, within.2.trans ?_⟩
  cases area <;> simp only [Area.array] <;> omega

end Places.Consecutive

/-- A power of two which fits 32 bits. -/
theorem le_of_isPowerOf2 {number : UInt32} (power : isPowerOf2 number.toNat = true) :
    0 < number.toNat ∧ number.toNat ≤ 2 ^ 31 := by
  simp only [isPowerOf2, Bool.and_eq_true, bne_iff_ne, beq_iff_eq] at power
  rcases RingBuffer.exists_two_pow_of_and_pred power.1 power.2 with ⟨order, isPower⟩
  have bound := number.toNat_lt
  rw [isPower] at bound ⊢
  have small : order < 32 := (Nat.pow_lt_pow_iff_right (by decide)).mp bound
  exact ⟨Nat.two_pow_pos order, Nat.pow_le_pow_right (by decide) (Nat.le_of_lt_succ small)⟩

theorem toNat_pageSize : pageSize.toNat = PAGE_SIZE := rfl

theorem toNat_pageAlign {size : UInt64} (small : size.toNat < 2 ^ 63) :
    (pageAlign size).toNat = roundUp size.toNat PAGE_SIZE := by
  have mask : (pageSize - 1).toNat = 2 ^ 12 - 1 := rfl
  apply Alignment.toNat_roundUp_mask mask
  rw [mask]
  omega

theorem size_duvmRequest : duvmRequest.size = 64 := by decide

theorem size_duvmCompletion : duvmCompletion.size = 64 := by decide

/-- The size in bytes of a ring of so many entries. -/
def ringBytes (capacity : ℕ) : ℕ := roundUp (capacity * 64) PAGE_SIZE

theorem le_ringBytes (capacity : ℕ) : capacity * 64 ≤ ringBytes capacity :=
  Alignment.le_roundUp _ (by decide)

theorem ringBytes_lt (capacity : ℕ) : ringBytes capacity < capacity * 64 + 4096 :=
  Alignment.roundUp_lt _ (by decide)

theorem toNat_ringSize (capacity : UInt32) :
    (pageAlign (capacity.toUInt64 * 64)).toNat = ringBytes capacity.toNat := by
  have bound := capacity.toNat_lt
  have entrySize : (64 : UInt64).toNat = 64 := rfl
  have entries : (capacity.toUInt64 * 64).toNat = capacity.toNat * 64 := by
    rw [UInt64.toNat_mul, UInt32.toNat_toUInt64, entrySize]
    exact Nat.mod_eq_of_lt (by omega)
  rw [toNat_pageAlign (by omega), entries, ringBytes]

theorem toNat_stagingSize (pages : UInt32) :
    (pages.toUInt64 * pageSize).toNat = pages.toNat * 4096 := by
  have bound := pages.toNat_lt
  have size : pageSize.toNat = 4096 := rfl
  rw [UInt64.toNat_mul, UInt32.toNat_toUInt64, size]
  exact Nat.mod_eq_of_lt (by omega)

/-- The layout in numbers: nothing overflows. -/
theorem places_layOutRing (capacity : UInt32) :
    (layOutRing capacity capacity.toUInt64).places =
      { requests := 4096
        requestSize := 64
        completions := 4096 + ringBytes capacity.toNat
        completionSize := 64
        staging := 4096 + ringBytes capacity.toNat + ringBytes capacity.toNat
        total := 4096 + ringBytes capacity.toNat + ringBytes capacity.toNat +
          capacity.toNat * 4096 } := by
  have bound := capacity.toNat_lt
  have close := ringBytes_lt capacity.toNat
  have ring := toNat_ringSize capacity
  have slots := toNat_stagingSize capacity
  have page : pageSize.toNat = 4096 := rfl
  simp only [RingMemory.places, layOutRing, size_duvmRequest, size_duvmCompletion,
    UInt64.toNat_add, UInt64.reduceOfNat, Places.mk.injEq, page, ring, slots, true_and]
  omega

theorem toNat_total (capacity : UInt32) :
    (layOutRing capacity capacity.toUInt64).ringSize.toNat =
      4096 + ringBytes capacity.toNat + ringBytes capacity.toNat + capacity.toNat * 4096 :=
  congrArg Places.total (places_layOutRing capacity)

/-- The number of pages fits its 32 bits. -/
theorem nrRingPages_layOutRing {capacity : UInt32} (small : capacity.toNat ≤ 2 ^ 31) :
    (layOutRing capacity capacity.toUInt64).nrRingPages.toNat * PAGE_SIZE =
      (layOutRing capacity capacity.toUInt64).ringSize.toNat := by
  have close := ringBytes_lt capacity.toNat
  rcases Alignment.dvd_roundUp (capacity.toNat * 64) PAGE_SIZE with ⟨pages, whole⟩
  change ringBytes capacity.toNat = 4096 * pages at whole
  have number : (layOutRing capacity capacity.toUInt64).nrRingPages.toNat =
      (layOutRing capacity capacity.toUInt64).ringSize.toNat / 4096 % 2 ^ 32 := by
    rfl
  rw [number, toNat_total, whole]
  change _ * 4096 = _
  omega

theorem pageAlign_of_dvd {size : UInt64} (small : size.toNat < 2 ^ 63)
    (whole : PAGE_SIZE ∣ size.toNat) : pageAlign size = size := by
  apply UInt64.toNat_inj.mp
  rw [toNat_pageAlign small, Alignment.roundUp_of_dvd whole]

theorem consecutive_layOutRing (capacity : UInt32) :
    (layOutRing capacity capacity.toUInt64).places.Consecutive capacity.toNat := by
  have fits := le_ringBytes capacity.toNat
  rw [places_layOutRing]
  exact ⟨le_rfl, by simp only; omega, by simp only; omega, le_rfl⟩

/-- The parameters as they can be read from the header. -/
theorem readU32_initHeader (capacity : UInt32) (stagingPages : UInt64) :
    (initHeader capacity stagingPages).readU32 256 = capacity ∧
      (initHeader capacity stagingPages).readU32 260 = 2 ∧
      (initHeader capacity stagingPages).readU32 264 = stagingPages.toUInt32 := by
  have atCapacity : duvmRingHeader.offsetOf 8 = 256 := by decide
  have atVersion : duvmRingHeader.offsetOf 9 = 260 := by decide
  have atStaging : duvmRingHeader.offsetOf 10 = 264 := by decide
  simp only [initHeader, headerWords, List.foldl_cons, List.foldl_nil, atCapacity, atVersion,
    atStaging]
  refine ⟨?_, ?_, ?_⟩
  · rw [ByteMemory.readU32_writeU32_of_apart _ _ (by omega),
      ByteMemory.readU32_writeU32_of_apart _ _ (by omega), ByteMemory.readU32_writeU32_self]
  · rw [ByteMemory.readU32_writeU32_of_apart _ _ (by omega), ByteMemory.readU32_writeU32_self]
  · exact ByteMemory.readU32_writeU32_self _ _ _

/-- A range of whole pages is mapped completely if there are so many pages. -/
theorem insertPages_eq {inserts : ℕ → Bool} (succeeds : ∀ page, inserts page = true)
    {count pagesLeft : ℕ} (enough : count ≤ pagesLeft) (page addr : ℕ) :
    insertPages inserts (addr + count * PAGE_SIZE) pagesLeft page addr =
      some ((List.range count).map fun index => (addr + index * PAGE_SIZE, page + index)) := by
  have positive : 0 < PAGE_SIZE := by decide
  induction count generalizing pagesLeft page addr with
  | zero =>
      cases pagesLeft with
      | zero => rfl
      | succ pagesLeft => simp [insertPages]
  | succ count ih =>
      cases pagesLeft with
      | zero => omega
      | succ pagesLeft =>
          have inside : addr < addr + (count + 1) * PAGE_SIZE := by
            rw [Nat.succ_mul]
            omega
          have stop : addr + (count + 1) * PAGE_SIZE = addr + PAGE_SIZE + count * PAGE_SIZE := by
            rw [Nat.succ_mul]
            omega
          rw [insertPages, if_pos inside, if_pos (succeeds page), stop,
            ih (Nat.le_of_succ_le_succ enough), List.range_succ_eq_map]
          simp only [Option.map_some, List.map_cons, List.map_map, Nat.zero_mul, Nat.add_zero]
          congr 2
          apply List.map_congr_left
          intro index _
          simp only [Function.comp_apply, Nat.succ_mul, Prod.mk.injEq]
          omega

/-- What a process sees of the pages which are mapped in order. -/
theorem view_range (contents : ByteMemory) (start : ℕ) {count offset : ℕ}
    (inside : offset < count * PAGE_SIZE) :
    Mapping.view ((List.range count).map fun index => (start + index * PAGE_SIZE, index))
      contents (start + offset) = contents offset := by
  have positive : 0 < PAGE_SIZE := by decide
  unfold Mapping.view
  cases search : List.find? _ _ with
  | none =>
      have listed : (start + offset / PAGE_SIZE * PAGE_SIZE, offset / PAGE_SIZE) ∈
          (List.range count).map fun index => (start + index * PAGE_SIZE, index) :=
        List.mem_map.mpr ⟨_, List.mem_range.mpr (Nat.div_lt_of_lt_mul (Nat.mul_comm _ _ ▸ inside)),
          rfl⟩
      have outside := List.find?_eq_none.mp search _ listed
      have whole := Nat.div_add_mod offset PAGE_SIZE
      have rest := Nat.mod_lt offset positive
      rw [Nat.mul_comm] at whole
      simp only [decide_eq_true_eq] at outside
      omega
  | some found =>
      rcases List.mem_map.mp (List.mem_of_find?_eq_some search) with ⟨index, _, rfl⟩
      have covers := List.find?_some search
      simp only [decide_eq_true_eq] at covers
      simp only
      congr 1
      omega

/-- A mapping of whole pages is granted if the ring is not shorter. -/
theorem duvmCtlMmap_eq_ok {ring : RingMemory} {start count : ℕ} {size : UInt64}
    {inserts : ℕ → Bool} (succeeds : ∀ page, inserts page = true)
    (whole : size.toNat = count * PAGE_SIZE) (enough : count ≤ ring.nrRingPages.toNat)
    (fits : size ≤ ring.ringSize) :
    duvmCtlMmap ring ⟨start, size⟩ inserts =
      .ok ((List.range count).map fun index => (start + index * PAGE_SIZE, index)) := by
  have inserted := insertPages_eq succeeds enough 0 start
  simp only [Nat.zero_add] at inserted
  rw [duvmCtlMmap, if_neg (UInt64.not_lt.mpr fits), whole, inserted]

end Duvm.Kmod

namespace Duvm.Daemon

open Duvm.Kmod
open Alignment (Struct)

def HDR_CAPACITY : ℕ := 256

def HDR_VERSION : ℕ := 260

def HDR_STAGING_PAGES : ℕ := 264

/-- `KmodRequest`. -/
def kmodRequest : Struct := ⟨false, 64, [.u8, .u8, .bytes 2, .u32, .u64, .u64, .u32, .bytes 28]⟩

/-- `KmodCompletion`. -/
def kmodCompletion : Struct := ⟨false, 64, [.u32, .u32, .u64, .u32, .bytes 40]⟩

/-- Kernel and daemon agree on where the fields of the ring entries are. -/
theorem entry_fields_agree :
    kmodRequest.offsets = duvmRequest.offsets ∧ kmodCompletion.offsets = duvmCompletion.offsets ∧
      kmodRequest.size = duvmRequest.size ∧ kmodCompletion.size = duvmCompletion.size := by
  decide

def alignUp (val align : UInt64) : UInt64 := (val + align - 1) &&& ~~~(align - 1)

/-- A call of `mmap`: the address it chooses, and which pages can be inserted. -/
structure MmapCall where
  start : ℕ
  inserts : ℕ → Bool

/-- `libc::mmap` on the control device, which is asked for whole pages. -/
def mmap (ring : RingMemory) (call : MmapCall) (length : UInt64) : Except Errno Mapping :=
  duvmCtlMmap ring ⟨call.start, pageAlign length⟩ call.inserts

inductive OpenError where
  | notOpened (ctlPath : String)
  | headerNotMapped (errno : Errno)
  | unsupportedVersion (version : UInt32)
  | ringNotMapped (errno : Errno)
deriving DecidableEq

/-- `last_os_error` as a text. -/
def osError : Errno → String
  | .eagain => "Resource temporarily unavailable (os error 11)"
  | .enodev => "No such device (os error 19)"
  | .ebusy => "Device or resource busy (os error 16)"
  | .einval => "Invalid argument (os error 22)"
  | .enomem => "Cannot allocate memory (os error 12)"

def OpenError.message : OpenError → String
  | .notOpened ctlPath => "Failed to open " ++ ctlPath ++ ". Is duvm-kmod loaded?"
  | .headerNotMapped errno => "mmap header failed: " ++ osError errno
  | .unsupportedVersion version =>
      s!"Unsupported ring buffer version: {version} (expected 2)"
  | .ringNotMapped errno => "mmap full ring failed: " ++ osError errno

/-- Consumer that connects to the kernel module. The pointers into the mapped region are
relative to its base. -/
structure KmodRingConsumer where
  base : ℕ
  mmapLen : UInt64
  requests : UInt64
  completions : UInt64
  staging : UInt64
  capacity : UInt32
  mask : UInt32
  mapping : Mapping

namespace KmodRingConsumer

/-- The second half of `KmodRingConsumer::open`: the layout is computed from the parameters,
and the whole ring is mapped. -/
def mapRing (ring : RingMemory) (full : MmapCall) (capacity stagingPages : UInt32) :
    Except OpenError KmodRingConsumer :=
  let headerSz := pageSize
  let reqSz := alignUp (capacity.toUInt64 * 64) pageSize
  let compSz := alignUp (capacity.toUInt64 * 64) pageSize
  let stagingSz := stagingPages.toUInt64 * pageSize
  let totalSz := headerSz + reqSz + compSz + stagingSz
  match mmap ring full totalSz with
  | .error errno => .error (.ringNotMapped errno)
  | .ok mapping =>
      .ok {
        base := full.start
        mmapLen := totalSz
        requests := headerSz
        completions := headerSz + reqSz
        staging := headerSz + reqSz + compSz
        capacity
        mask := capacity - 1
        mapping }

/-- `KmodRingConsumer::open`, given whether the control device could be opened. -/
def openCtl (ctlPath : String) (opened : Bool) (ring : RingMemory) (probe full : MmapCall) :
    Except OpenError KmodRingConsumer :=
  if !opened then .error (.notOpened ctlPath)
  else
    match mmap ring probe pageSize with
    | .error errno => .error (.headerNotMapped errno)
    | .ok headerMap =>
        let hdr := headerMap.view ring.contents
        let capacity := hdr.readU32 (probe.start + HDR_CAPACITY)
        let version := hdr.readU32 (probe.start + HDR_VERSION)
        let stagingPages := hdr.readU32 (probe.start + HDR_STAGING_PAGES)
        if version ≠ 2 then .error (.unsupportedVersion version)
        else mapRing ring full capacity stagingPages

/-- Where the daemon takes the parts of the shared memory to be. -/
def places (consumer : KmodRingConsumer) : Places :=
  ⟨consumer.requests.toNat, kmodRequest.size, consumer.completions.toNat, kmodCompletion.size,
    consumer.staging.toNat, consumer.mmapLen.toNat⟩

/-- Kernel and daemon agree on the shared memory: on where its parts are and how large it is,
which is a whole number of pages, all of them mapped; no two areas overlap. -/
structure SharesLayout (consumer : KmodRingConsumer) (ring : RingMemory) (capacity : UInt32) :
    Prop where
  places : consumer.places = ring.places
  sameCapacity : consumer.capacity = capacity
  mask : consumer.mask.toNat = capacity.toNat - 1
  pages : ring.nrRingPages.toNat * PAGE_SIZE = ring.ringSize.toNat
  accepted : consumer.mmapLen ≤ ring.ringSize
  mapping : consumer.mapping = (List.range ring.nrRingPages.toNat).map fun index =>
    (consumer.base + index * PAGE_SIZE, index)
  shared : ∀ offset < ring.ringSize.toNat, ∀ contents,
    consumer.mapping.view contents (consumer.base + offset) = contents offset
  apart : ∀ area other : Area, area.InRange capacity.toNat → other.InRange capacity.toNat →
    area ≠ other → (area.region ring.places).Apart (other.region ring.places)
  within : ∀ area : Area, area.InRange capacity.toNat →
    (area.region ring.places).Within ⟨0, ring.ringSize.toNat⟩

theorem alignUp_pageSize (size : UInt64) : alignUp size pageSize = pageAlign size := by
  have moved : size + pageSize - 1 = size + (pageSize - 1) := by
    rw [UInt64.sub_eq_add_neg, UInt64.sub_eq_add_neg, UInt64.add_assoc]
  rw [alignUp, pageAlign, moved]

section Opened

variable {capacity : UInt32}

theorem pageAlign_total (small : capacity.toNat ≤ 2 ^ 31) :
    pageAlign (layOutRing capacity capacity.toUInt64).ringSize =
      (layOutRing capacity capacity.toUInt64).ringSize := by
  have pages := nrRingPages_layOutRing small
  have close := ringBytes_lt capacity.toNat
  apply pageAlign_of_dvd
  · rw [toNat_total]
    omega
  · exact ⟨_, pages.symm.trans (Nat.mul_comm _ _)⟩

/-- From the parameters in the header the daemon computes the layout of the kernel, and all of
its pages are mapped. -/
theorem mapRing_eq_ok (small : capacity.toNat ≤ 2 ^ 31) {full : MmapCall}
    (inserts : ∀ page, full.inserts page = true) :
    mapRing (layOutRing capacity capacity.toUInt64) full capacity capacity = .ok {
      base := full.start
      mmapLen := (layOutRing capacity capacity.toUInt64).ringSize
      requests := (layOutRing capacity capacity.toUInt64).requests
      completions := (layOutRing capacity capacity.toUInt64).completions
      staging := (layOutRing capacity capacity.toUInt64).staging
      capacity
      mask := capacity - 1
      mapping := (List.range (layOutRing capacity capacity.toUInt64).nrRingPages.toNat).map
        fun index => (full.start + index * PAGE_SIZE, index) } := by
  have mapped : mmap (layOutRing capacity capacity.toUInt64) full
      (layOutRing capacity capacity.toUInt64).ringSize =
        .ok ((List.range (layOutRing capacity capacity.toUInt64).nrRingPages.toNat).map
          fun index => (full.start + index * PAGE_SIZE, index)) := by
    rw [mmap, pageAlign_total small]
    exact duvmCtlMmap_eq_ok inserts (nrRingPages_layOutRing small).symm le_rfl (UInt64.le_refl _)
  have total : pageSize + pageAlign (capacity.toUInt64 * 64) +
      pageAlign (capacity.toUInt64 * 64) + capacity.toUInt64 * pageSize =
        (layOutRing capacity capacity.toUInt64).ringSize := by
    rw [layOutRing, size_duvmRequest, size_duvmCompletion]
    rfl
  simp only [mapRing, alignUp_pageSize, total, mapped]
  rw [layOutRing, size_duvmRequest, size_duvmCompletion]
  rfl

/-- The probe maps the first page. -/
theorem mmap_probe (small : capacity.toNat ≤ 2 ^ 31) {probe : MmapCall}
    (inserts : ∀ page, probe.inserts page = true) :
    mmap (layOutRing capacity capacity.toUInt64) probe pageSize =
      .ok ((List.range 1).map fun index => (probe.start + index * PAGE_SIZE, index)) := by
  have onePage : pageAlign pageSize = pageSize := by decide
  have pages := nrRingPages_layOutRing small
  have page : PAGE_SIZE = 4096 := rfl
  rw [toNat_total, page] at pages
  rw [mmap, onePage]
  apply duvmCtlMmap_eq_ok inserts
  · rfl
  · omega
  · rw [UInt64.le_iff_toNat_le, toNat_pageSize, toNat_total]
    omega

/-- Through the first page the header can be read. -/
theorem readU32_probe (contents : ByteMemory) (start : ℕ) {offset : ℕ}
    (inside : offset + 4 ≤ PAGE_SIZE) :
    (Mapping.view ((List.range 1).map fun index => (start + index * PAGE_SIZE, index))
        contents).readU32 (start + offset) = contents.readU32 offset := by
  apply ByteMemory.readU32_congr
  intro index small
  rw [Nat.add_assoc]
  apply view_range
  omega

theorem openCtl_eq_mapRing (small : capacity.toNat ≤ 2 ^ 31) (ctlPath : String)
    {probe : MmapCall} (inserts : ∀ page, probe.inserts page = true) (full : MmapCall) :
    openCtl ctlPath true (layOutRing capacity capacity.toUInt64) probe full =
      mapRing (layOutRing capacity capacity.toUInt64) full capacity capacity := by
  rcases readU32_initHeader capacity capacity.toUInt64 with ⟨atCapacity, atVersion, atStaging⟩
  have header : (layOutRing capacity capacity.toUInt64).contents =
      initHeader capacity capacity.toUInt64 := rfl
  simp only [openCtl, mmap_probe small inserts, header]
  rw [readU32_probe _ _ (by decide), readU32_probe _ _ (by decide),
    readU32_probe _ _ (by decide)]
  simp [HDR_CAPACITY, HDR_VERSION, HDR_STAGING_PAGES, atCapacity, atVersion, atStaging]

end Opened

/-- Whenever the ring was set up for a power of two of entries and as many staging pages, the
daemon opens it with the layout of the kernel, if the pages can be inserted. -/
theorem layouts_agree {capacity : UInt32} (power : isPowerOf2 capacity.toNat = true)
    (ctlPath : String) {probe full : MmapCall} (probeInserts : ∀ page, probe.inserts page = true)
    (fullInserts : ∀ page, full.inserts page = true) :
    ∃ consumer, openCtl ctlPath true (layOutRing capacity capacity.toUInt64) probe full =
        .ok consumer ∧
      consumer.SharesLayout (layOutRing capacity capacity.toUInt64) capacity := by
  rcases le_of_isPowerOf2 power with ⟨positive, small⟩
  have pages := nrRingPages_layOutRing small
  refine ⟨_, (openCtl_eq_mapRing small ctlPath probeInserts full).trans
    (mapRing_eq_ok small fullInserts), ?_⟩
  exact
    { places := by
        rw [places, RingMemory.places, entry_fields_agree.2.2.1, entry_fields_agree.2.2.2]
      sameCapacity := rfl
      mask := by
        have least : (1 : UInt32) ≤ capacity := UInt32.le_iff_toNat_le.mpr positive
        exact UInt32.toNat_sub_of_le _ _ least
      pages
      accepted := UInt64.le_refl _
      mapping := rfl
      shared := fun offset inside contents => by
        rw [← pages] at inside
        exact view_range contents full.start inside
      apart := fun area other inRange otherInRange different =>
        (consecutive_layOutRing capacity).region_apart inRange otherInRange different
      within := fun area inRange => (consecutive_layOutRing capacity).region_within inRange }

/-- The ring of `DUVM_RING_ENTRIES` entries, which the module sets up by default. -/
theorem layouts_agree_by_default :
    ∃ consumer, openCtl "/dev/duvm_ctl" true (layOutRing 4096 (4096 : UInt32).toUInt64)
        ⟨0, fun _ => true⟩ ⟨0, fun _ => true⟩ = .ok consumer ∧
      consumer.SharesLayout (layOutRing 4096 (4096 : UInt32).toUInt64) 4096 ∧
      consumer.mmapLen = 4225 * pageSize := by
  rcases layouts_agree (by decide : isPowerOf2 (4096 : UInt32).toNat = true) "/dev/duvm_ctl"
    (fun _ => rfl : ∀ page, (⟨0, fun _ => true⟩ : MmapCall).inserts page = true)
    (fun _ => rfl : ∀ page, (⟨0, fun _ => true⟩ : MmapCall).inserts page = true) with
    ⟨consumer, opened, shares⟩
  refine ⟨consumer, opened, shares, ?_⟩
  apply UInt64.toNat_inj.mp
  exact congrArg Places.total shares.places

end KmodRingConsumer

end Duvm.Daemon
