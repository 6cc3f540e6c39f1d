import Mathlib.Algebra.Order.Ring.Nat
import Mathlib.Data.Nat.Bitwise

/-!
# Alignment

Rounding up to a multiple, on numbers and on 64-bit words, where it is done by
masking, and the placement of the fields of a C structure. A packed structure
places its fields one right after the other; otherwise each field is placed at
the next multiple of its own alignment. The size of a structure is a multiple of
its alignment.
-/

namespace Alignment

/-- The least multiple of `align` which is not below the value. -/
def roundUp (value align : ℕ) : ℕ := (value + (align - 1)) / align * align

theorem le_roundUp (value : ℕ) {align : ℕ} (positive : 0 < align) :
    value ≤ roundUp value align := by
  have split := Nat.div_add_mod (value + (align - 1)) align
  have below := Nat.mod_lt (value + (align - 1)) positive
  rw [Nat.mul_comm] at split
  unfold roundUp
  omega

theorem dvd_roundUp (value align : ℕ) : align ∣ roundUp value align :=
  Nat.dvd_mul_left align _

theorem roundUp_lt (value : ℕ) {align : ℕ} (positive : 0 < align) :
    roundUp value align < value + align := by
  have quotient := Nat.div_mul_le_self (value + (align - 1)) align
  unfold roundUp
  omega

theorem roundUp_of_dvd {value align : ℕ} (whole : align ∣ value) : roundUp value align = value := by
  rcases Nat.eq_zero_or_pos align with rfl | positive
  · rw [Nat.eq_zero_of_zero_dvd whole]
    rfl
  · apply Nat.le_antisymm ?_ (le_roundUp value positive)
    rcases whole with ⟨count, rfl⟩
    have close := roundUp_lt (align * count) positive
    rcases dvd_roundUp (align * count) align with ⟨rounded, same⟩
    rw [same] at close ⊢
    rw [← Nat.mul_succ] at close
    exact Nat.mul_le_mul_left align (Nat.le_of_lt_succ (Nat.lt_of_mul_lt_mul_left close))

/-- Clearing the low bits of a word. -/
theorem toNat_and_not_mask (word : UInt64) {mask : UInt64} {order : ℕ}
    (isMask : mask.toNat = 2 ^ order - 1) :
    (word &&& ~~~mask).toNat = word.toNat / 2 ^ order * 2 ^ order := by
  have complement : (~~~mask).toNat = 2 ^ 64 - (mask.toNat + 1) := by
    rw [UInt64.toNat_not, Nat.add_comm mask.toNat, ← Nat.sub_sub]
    rfl
  apply Nat.eq_of_testBit_eq
  intro bit
  rw [UInt64.toNat_and, Nat.testBit_and, complement,
    Nat.testBit_two_pow_sub_succ mask.toNat_lt, isMask, Nat.testBit_two_pow_sub_one,
    Nat.testBit_mul_two_pow]
  by_cases low : bit < order
  · simp [low]
  · have high : order ≤ bit := Nat.not_lt.mp low
    rw [Nat.testBit_div_two_pow, Nat.sub_add_cancel high]
    by_cases inWord : bit < 64
    · simp [inWord, low, high]
    · have beyond : word.toNat.testBit bit = false := by
        apply Nat.testBit_lt_two_pow
        exact word.toNat_lt.trans_le (Nat.pow_le_pow_right (by decide) (Nat.not_lt.mp inWord))
      simp [beyond]

/-- Rounding a word up by masking, as long as nothing overflows. -/
theorem toNat_roundUp_mask {word mask : UInt64} {order : ℕ} (isMask : mask.toNat = 2 ^ order - 1)
    (fits : word.toNat + mask.toNat < 2 ^ 64) :
    ((word + mask) &&& ~~~mask).toNat = roundUp word.toNat (2 ^ order) := by
  rw [toNat_and_not_mask _ isMask, UInt64.toNat_add, Nat.mod_eq_of_lt fits, isMask, roundUp]

/-- A field: its size and the alignment of its type. -/
structure Field where
  size : ℕ
  align : ℕ
deriving DecidableEq

namespace Field

def u8 : Field := ⟨1, 1⟩

def u32 : Field := ⟨4, 4⟩

def u64 : Field := ⟨8, 8⟩

/-- An array of bytes. -/
def bytes (count : ℕ) : Field := ⟨count, 1⟩

end Field

/-- A structure: its fields in order, whether they are packed, and the alignment it asks for. -/
structure Struct where
  packed : Bool
  align : ℕ
  fields : List Field
deriving DecidableEq

namespace Struct

/-- The offsets of the fields from the given one on, and where the last of them ends. -/
def place (packed : Bool) : ℕ → List Field → List ℕ × ℕ
  | offset, [] => ([], offset)
  | offset, field :: rest =>
      let start := if packed then offset else roundUp offset field.align
      let (offsets, stop) := place packed (start + field.size) rest
      (start :: offsets, stop)

def offsets (layout : Struct) : List ℕ := (place layout.packed 0 layout.fields).1

/-- The offset of the field of the given number. -/
def offsetOf (layout : Struct) (index : ℕ) : ℕ := layout.offsets.getD index 0

def alignment (layout : Struct) : ℕ :=
  if layout.packed then layout.align
  else (layout.fields.map Field.align).foldl max layout.align

/-- `sizeof`. -/
def size (layout : Struct) : ℕ := roundUp (place layout.packed 0 layout.fields).2 layout.alignment

end Struct

end Alignment
