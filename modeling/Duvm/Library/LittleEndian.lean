import Duvm.Library.ByteMemory
import Mathlib.Algebra.Order.Ring.Nat

/-!
# Little-endian numbers

The bytes of a natural number at a fixed width, least significant first, and
the number which a list of bytes stands for; words in a memory of bytes.
-/

namespace LittleEndian

/-- The `width` low bytes of a number. -/
def bytes : ℕ → ℕ → List UInt8
  | 0, _ => []
  | width + 1, value => UInt8.ofNat value :: bytes width (value / 256)

def value : List UInt8 → ℕ
  | [] => 0
  | byte :: rest => byte.toNat + 256 * value rest

@[simp]
theorem length_bytes (width number : ℕ) : (bytes width number).length = width := by
  induction width generalizing number with
  | zero => rfl
  | succ width ih => simp [bytes, ih]

theorem value_bytes (width number : ℕ) : value (bytes width number) = number % 256 ^ width := by
  induction width generalizing number with
  | zero => simp [bytes, value, Nat.mod_one]
  | succ width ih =>
      simp only [bytes, value, ih]
      rw [Nat.pow_succ, Nat.mul_comm (256 ^ width) 256, Nat.mod_mul, UInt8.toNat_ofNat']

theorem value_bytes_of_lt {width number : ℕ} (fits : number < 256 ^ width) :
    value (bytes width number) = number := by
  rw [value_bytes, Nat.mod_eq_of_lt fits]

theorem bytes_value (list : List UInt8) : bytes list.length (value list) = list := by
  induction list with
  | nil => rfl
  | cons byte rest ih =>
      have small : byte.toNat < 256 := byte.toNat_lt
      have low : UInt8.ofNat (byte.toNat + 256 * value rest) = byte := by
        apply UInt8.toNat_inj.mp
        rw [UInt8.toNat_ofNat']
        omega
      have high : (byte.toNat + 256 * value rest) / 256 = value rest := by omega
      rw [List.length_cons, value, bytes, low, high, ih]

theorem value_lt (list : List UInt8) : value list < 256 ^ list.length := by
  induction list with
  | nil => simp [value]
  | cons byte rest ih =>
      have small : byte.toNat < 256 := byte.toNat_lt
      rw [value, List.length_cons, Nat.pow_succ]
      omega

/-- `u64::to_le_bytes`. -/
def ofUInt64 (word : UInt64) : Vector UInt8 8 := ⟨(bytes 8 word.toNat).toArray, by simp⟩

/-- `u64::from_le_bytes`. -/
def toUInt64 (word : Vector UInt8 8) : UInt64 := UInt64.ofNat (value word.toList)

theorem toUInt64_ofUInt64 (word : UInt64) : toUInt64 (ofUInt64 word) = word := by
  have fits : word.toNat < 256 ^ 8 := word.toNat_lt
  have listed : (ofUInt64 word).toList = bytes 8 word.toNat := rfl
  rw [toUInt64, listed, value_bytes_of_lt fits, UInt64.ofNat_toNat]

theorem ofUInt64_toUInt64 (word : Vector UInt8 8) : ofUInt64 (toUInt64 word) = word := by
  have length : word.toList.length = 8 := by simp
  have fits := value_lt word.toList
  have back := bytes_value word.toList
  rw [length] at fits back
  apply Vector.toList_inj.mp
  change bytes 8 (UInt64.ofNat (value word.toList)).toNat = word.toList
  rw [UInt64.toNat_ofNat_of_lt' fits, back]

end LittleEndian

namespace ByteMemory

/-- A 32-bit word at an address. -/
def readU32 (memory : ByteMemory) (address : ℕ) : UInt32 :=
  UInt32.ofNat (LittleEndian.value (memory.read address 4))

def writeU32 (memory : ByteMemory) (address : ℕ) (word : UInt32) : ByteMemory :=
  memory.write address (LittleEndian.bytes 4 word.toNat)

theorem readU32_writeU32_self (memory : ByteMemory) (address : ℕ) (word : UInt32) :
    (memory.writeU32 address word).readU32 address = word := by
  have fits : word.toNat < 256 ^ 4 := word.toNat_lt
  have back := memory.read_write_self address (LittleEndian.bytes 4 word.toNat)
  rw [LittleEndian.length_bytes] at back
  rw [readU32, writeU32, back, LittleEndian.value_bytes_of_lt fits, UInt32.ofNat_toNat]

/-- A word which does not overlap with the one written keeps its value. -/
theorem readU32_writeU32_of_apart (memory : ByteMemory) {address other : ℕ} (word : UInt32)
    (apart : other + 4 ≤ address ∨ address + 4 ≤ other) :
    (memory.writeU32 address word).readU32 other = memory.readU32 other := by
  rw [readU32, writeU32, read_write_of_disjoint, readU32]
  rwa [LittleEndian.length_bytes]

/-- Memories which agree on the four bytes of a word agree on the word. -/
theorem readU32_congr {memory other : ByteMemory} {address place : ℕ}
    (agree : ∀ index < 4, memory (address + index) = other (place + index)) :
    memory.readU32 address = other.readU32 place := by
  have same : memory.read address 4 = other.read place 4 := by
    apply List.map_congr_left
    intro index inside
    exact agree index (List.mem_range.mp inside)
  rw [readU32, readU32, same]

end ByteMemory
