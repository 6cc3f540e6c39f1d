import Duvm.Library.ByteMemory
import Mathlib.Data.Nat.Bitwise
import Mathlib.Tactic.NormNum

/-!
# Pages, handles and tiers

The types of `duvm-common/src/page.rs`. A page is a buffer of `PAGE_SIZE`
bytes. A handle packs the backend identifier into the upper eight bits of a
64-bit word and the offset inside the backend into the lower 56; building one
from an offset which does not fit panics.
-/

namespace Duvm

def PAGE_SIZE : ℕ := 4096

/-- A page-aligned buffer for transferring page data. -/
abbrev PageBuffer := Vector UInt8 PAGE_SIZE

namespace PageBuffer

def filled (byte : UInt8) : PageBuffer := Vector.replicate PAGE_SIZE byte

/-- The page `[0u8; PAGE_SIZE]`. -/
def zero : PageBuffer := filled 0

theorem filled_ne {left right : UInt8} (distinct : left ≠ right) :
    filled left ≠ filled right := by
  intro same
  have firstByte := congrArg (fun page : PageBuffer => page.toList[0]?) same
  simp only [filled, Vector.toList_replicate, PAGE_SIZE, List.getElem?_replicate] at firstByte
  exact distinct (by simpa using firstByte)

@[simp]
theorem length_toList (page : PageBuffer) : page.toList.length = PAGE_SIZE := by
  simp

/-- The page with the given bytes, when they are as many as a page has. -/
def ofBytes (bytes : List UInt8) : Option PageBuffer :=
  if isPage : bytes.length = PAGE_SIZE then some ⟨bytes.toArray, by simpa using isPage⟩
  else none

theorem ofBytes_toList (page : PageBuffer) : ofBytes page.toList = some page := by
  rw [ofBytes, dif_pos (length_toList page)]
  congr 1

end PageBuffer

/-- The page at an address of a memory. -/
def readPage (memory : ByteMemory) (address : ℕ) : PageBuffer :=
  Vector.ofFn fun index => memory (address + index)

theorem toList_readPage (memory : ByteMemory) (address : ℕ) :
    (readPage memory address).toList = memory.read address PAGE_SIZE := by
  apply List.ext_getElem
  · simp
  · intro index left right
    simp [readPage, ByteMemory.read]

theorem readPage_eq_filled {memory : ByteMemory} {address : ℕ} {byte : UInt8}
    (same : ∀ index < PAGE_SIZE, memory (address + index) = byte) :
    readPage memory address = .filled byte := by
  apply Vector.ext
  intro index inPage
  simp only [readPage, PageBuffer.filled, Vector.getElem_ofFn, Vector.getElem_replicate]
  exact same index inPage

/-- The page read back where it was written. -/
theorem readPage_write_self (memory : ByteMemory) (address : ℕ) (page : PageBuffer) :
    readPage (memory.write address page.toList) address = page := by
  apply Vector.toList_inj.mp
  have written := ByteMemory.read_write_self memory address page.toList
  rw [PageBuffer.length_toList] at written
  rw [toList_readPage, written]

theorem readPage_write_of_disjoint {memory : ByteMemory} {address target : ℕ}
    {bytes : List UInt8}
    (disjoint : target + PAGE_SIZE ≤ address ∨ address + bytes.length ≤ target) :
    readPage (memory.write address bytes) target = readPage memory target := by
  apply Vector.toList_inj.mp
  rw [toList_readPage, toList_readPage, ByteMemory.read_write_of_disjoint disjoint]

/-- Opaque handle to a page stored in a backend. -/
structure PageHandle where
  raw : UInt64
deriving DecidableEq, Repr

namespace PageHandle

def offsetLimit : ℕ := 2 ^ 56

/-- `PageHandle::new`; `none` is the panic "offset exceeds 56-bit limit". -/
def new (backendId : UInt8) (offset : UInt64) : Option PageHandle :=
  if offset.toNat < offsetLimit then some ⟨backendId.toUInt64 <<< 56 ||| offset⟩ else none

def backendId (handle : PageHandle) : UInt8 := (handle.raw >>> 56).toUInt8

def offset (handle : PageHandle) : UInt64 := handle.raw &&& (((1 : UInt64) <<< 56) - 1)

variable {backendId : UInt8} {offset : UInt64} {handle : PageHandle}

theorem new_isSome :
    (new backendId offset).isSome ↔ offset.toNat < offsetLimit := by
  simp only [new]
  split <;> simp_all

theorem new_eq_none :
    new backendId offset = none ↔ offsetLimit ≤ offset.toNat := by
  simp only [new]
  split <;> simp_all

theorem toNat_raw_of_new (created : new backendId offset = some handle) :
    handle.raw.toNat = backendId.toNat * 2 ^ 56 + offset.toNat := by
  have fits : offset.toNat < offsetLimit := new_isSome.mp (by rw [created]; rfl)
  rw [new, if_pos fits, Option.some.injEq] at created
  subst created
  have small : backendId.toNat < 2 ^ 8 := backendId.toNat_lt
  have shifted : backendId.toNat * 2 ^ 56 < 2 ^ 64 := by omega
  have amount : (56 : UInt64).toNat % 64 = 56 := rfl
  rw [UInt64.toNat_or, UInt64.toNat_shiftLeft, UInt8.toNat_toUInt64, amount, Nat.shiftLeft_eq]
  rw [Nat.mod_eq_of_lt shifted, ← Nat.shiftLeft_eq, ← Nat.shiftLeft_add_eq_or_of_lt fits]

theorem toNat_offset (handle : PageHandle) :
    handle.offset.toNat = handle.raw.toNat % 2 ^ 56 := by
  have mask : (((1 : UInt64) <<< 56) - 1).toNat = 2 ^ 56 - 1 := by decide
  rw [offset, UInt64.toNat_and, mask, Nat.and_two_pow_sub_one_eq_mod]

@[simp]
theorem offset_of_new (created : new backendId offset = some handle) : handle.offset = offset := by
  have fits : offset.toNat < 2 ^ 56 := new_isSome.mp (by rw [created]; rfl)
  apply UInt64.toNat_inj.mp
  rw [toNat_offset, toNat_raw_of_new created]
  omega

theorem backendId_of_new (created : new backendId offset = some handle) :
    handle.backendId = backendId := by
  have fits : offset.toNat < 2 ^ 56 := new_isSome.mp (by rw [created]; rfl)
  have small : backendId.toNat < 2 ^ 8 := backendId.toNat_lt
  apply UInt8.toNat_inj.mp
  have amount : (56 : UInt64).toNat % 64 = 56 := rfl
  rw [PageHandle.backendId, UInt64.toNat_toUInt8, UInt64.toNat_shiftRight,
    toNat_raw_of_new created, amount, Nat.shiftRight_eq_div_pow]
  omega

end PageHandle

/-- Tier levels for page placement. -/
inductive Tier where
  | localDram
  | compressed
  | cxl
  | rdma
  | gpu
deriving DecidableEq, Repr

/-- `Debug` for tiers. -/
def Tier.debug : Tier → String
  | .localDram => "Local"
  | .compressed => "Compressed"
  | .cxl => "Cxl"
  | .rdma => "Rdma"
  | .gpu => "Gpu"

/-- Page flags used in metadata tracking. -/
structure PageFlags where
  bits : UInt8
deriving DecidableEq, Repr

namespace PageFlags

def PINNED : PageFlags := ⟨(1 : UInt8) <<< 1⟩

def empty : PageFlags := ⟨0⟩

def contains (flags flag : PageFlags) : Bool := flags.bits &&& flag.bits == flag.bits

def insert (flags flag : PageFlags) : PageFlags := ⟨flags.bits ||| flag.bits⟩

def remove (flags flag : PageFlags) : PageFlags := ⟨flags.bits &&& ~~~flag.bits⟩

end PageFlags

end Duvm
