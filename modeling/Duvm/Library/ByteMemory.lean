import Mathlib.Data.List.Basic

/-!
# Byte-addressed memory

Memory is a function from addresses to bytes. `write` is `memcpy` into the
memory and `read` is `memcpy` out of it; a write is seen by reads inside its
range and by no read outside it. A region is a range of addresses; a memory
which is written in one region is unchanged in every region apart from it.
-/

/-- A memory of bytes. -/
abbrev ByteMemory := ℕ → UInt8

namespace ByteMemory

def write (memory : ByteMemory) (address : ℕ) (bytes : List UInt8) : ByteMemory :=
  fun location =>
    if address ≤ location then (bytes[location - address]?).getD (memory location)
    else memory location

def read (memory : ByteMemory) (address length : ℕ) : List UInt8 :=
  (List.range length).map fun index => memory (address + index)

@[simp]
theorem length_read (memory : ByteMemory) (address length : ℕ) :
    (memory.read address length).length = length := by
  simp [read]

variable {bytes : List UInt8} {memory : ByteMemory}

theorem write_apply_of_mem {address index : ℕ} {byte : UInt8} (listed : bytes[index]? = some byte) :
    memory.write address bytes (address + index) = byte := by
  simp [write, listed]

/-- Outside its range a write changes nothing. -/
theorem write_apply_of_outside {address location : ℕ}
    (outside : location < address ∨ address + bytes.length ≤ location) :
    memory.write address bytes location = memory location := by
  rcases outside with below | above
  · simp [write, Nat.not_le.mpr below]
  · have beyond : bytes[location - address]? = none :=
      List.getElem?_eq_none (by omega)
    simp [write, beyond]

theorem read_write_self (memory : ByteMemory) (address : ℕ) (bytes : List UInt8) :
    (memory.write address bytes).read address bytes.length = bytes := by
  apply List.ext_getElem
  · simp
  · intro index inRead inBytes
    simp only [read, List.getElem_map, List.getElem_range]
    exact write_apply_of_mem (List.getElem?_eq_getElem inBytes)

/-- A read which misses the range of a write does not see it. -/
theorem read_write_of_disjoint {address length target : ℕ}
    (disjoint : target + length ≤ address ∨ address + bytes.length ≤ target) :
    (memory.write address bytes).read target length = memory.read target length := by
  apply List.map_congr_left
  intro index inRange
  rw [List.mem_range] at inRange
  apply write_apply_of_outside
  omega

/-- Writes to different ranges can be made in either order. -/
theorem write_comm (memory : ByteMemory) {first second : ℕ} {left right : List UInt8}
    (disjoint : first + left.length ≤ second ∨ second + right.length ≤ first) :
    (memory.write first left).write second right =
      (memory.write second right).write first left := by
  funext location
  by_cases inLeft : first ≤ location ∧ location < first + left.length
  · have outside : location < second ∨ second + right.length ≤ location := by omega
    have listed : left[location - first]? = some (left.get ⟨location - first, by omega⟩) :=
      List.getElem?_eq_getElem (by omega)
    rw [write_apply_of_outside outside]
    simp only [write, if_pos inLeft.1, listed, Option.getD_some]
  · have outside : location < first ∨ first + left.length ≤ location := by omega
    have kept : memory.write first left location = memory location :=
      write_apply_of_outside outside
    rw [write_apply_of_outside outside]
    change (if second ≤ location then
      (right[location - second]?).getD (memory.write first left location)
      else memory.write first left location) = _
    rw [kept]
    rfl

/-- Writing one piece behind another is writing them at once. -/
theorem write_append (memory : ByteMemory) (address : ℕ) (first second : List UInt8) :
    (memory.write address first).write (address + first.length) second =
      memory.write address (first ++ second) := by
  funext location
  simp only [write]
  by_cases below : location < address
  · have outside : ¬ address ≤ location := by omega
    have beyond : ¬ address + first.length ≤ location := by omega
    simp [outside, beyond]
  · have reached : address ≤ location := by omega
    by_cases inFirst : location < address + first.length
    · have before : ¬ address + first.length ≤ location := by omega
      have left : location - address < first.length := by omega
      simp [reached, before, List.getElem?_append_left left]
    · have after : address + first.length ≤ location := by omega
      have right : first.length ≤ location - address := by omega
      have none : first[location - address]? = none := List.getElem?_eq_none right
      simp [reached, after, List.getElem?_append_right right, none, Nat.sub_sub]

theorem read_add (memory : ByteMemory) (address first second : ℕ) :
    memory.read address (first + second) =
      memory.read address first ++ memory.read (address + first) second := by
  simp [read, List.range_add, Nat.add_assoc]

end ByteMemory

/-- The addresses from `base` on, `size` many. -/
structure Region where
  base : ℕ
  size : ℕ
deriving DecidableEq

namespace Region

variable {inner outer other : Region}

instance : Membership ℕ Region where
  mem region location := region.base ≤ location ∧ location < region.base + region.size

def Within (inner outer : Region) : Prop :=
  outer.base ≤ inner.base ∧ inner.base + inner.size ≤ outer.base + outer.size

instance : Decidable (inner.Within outer) := inferInstanceAs (Decidable (_ ∧ _))

def Apart (region other : Region) : Prop :=
  region.base + region.size ≤ other.base ∨ other.base + other.size ≤ region.base

/-- The item of the given number in an array of items of one size. -/
def item (base size index : ℕ) : Region := ⟨base + index * size, size⟩

theorem item_within (base size : ℕ) {index count : ℕ} (inside : index < count) :
    (item base size index).Within ⟨base, count * size⟩ := by
  have next := Nat.mul_le_mul_right size (Nat.succ_le_of_lt inside)
  rw [Nat.succ_mul] at next
  refine ⟨Nat.le_add_right _ _, ?_⟩
  simp only [item]
  omega

/-- Different items do not overlap. -/
theorem item_apart (base size : ℕ) {index other : ℕ} (different : index ≠ other) :
    (item base size index).Apart (item base size other) := by
  rcases Nat.lt_or_gt_of_ne different with before | after
  · have next := Nat.mul_le_mul_right size (Nat.succ_le_of_lt before)
    rw [Nat.succ_mul] at next
    left
    simp only [item]
    omega
  · have next := Nat.mul_le_mul_right size (Nat.succ_le_of_lt after)
    rw [Nat.succ_mul] at next
    right
    simp only [item]
    omega

theorem Apart.symm (apart : outer.Apart other) : other.Apart outer := Or.symm apart

theorem Apart.of_within (apart : outer.Apart other) (within : inner.Within outer) :
    inner.Apart other := by
  rcases apart with before | after
  · exact .inl (Nat.le_trans within.2 before)
  · exact .inr (Nat.le_trans after within.1)

end Region

namespace ByteMemory

variable {region other : Region}

/-- Two memories have the same bytes in a region. -/
def AgreeOn (region : Region) (left right : ByteMemory) : Prop :=
  ∀ location, location ∈ region → left location = right location

theorem AgreeOn.refl (memory : ByteMemory) : AgreeOn region memory memory := fun _ _ => rfl

/-- The memory with zeros in a region. -/
def clear (memory : ByteMemory) (region : Region) : ByteMemory :=
  fun location =>
    if region.base ≤ location ∧ location < region.base + region.size then 0 else memory location

theorem write_agreeOn (memory : ByteMemory) {address : ℕ} {bytes : List UInt8}
    (apart : Region.Apart ⟨address, bytes.length⟩ region) :
    AgreeOn region (memory.write address bytes) memory := by
  rintro location ⟨above, below⟩
  apply write_apply_of_outside
  rcases apart with before | after
  · exact .inr (Nat.le_trans before above)
  · exact .inl (Nat.lt_of_lt_of_le below after)

/-- A copy into a region, from its start, changes nothing outside exactly if it fits. -/
theorem write_inside_iff (region : Region) (bytes : List UInt8) :
    (∀ memory location, location ∉ region →
      write memory region.base bytes location = memory location) ↔
      bytes.length ≤ region.size := by
  constructor
  · intro inside
    by_contra long
    have listed : bytes[region.size]? = some (bytes.get ⟨region.size, by omega⟩) :=
      List.getElem?_eq_getElem (by omega)
    generalize bytes.get ⟨region.size, by omega⟩ = byte at listed
    have outside : region.base + region.size ∉ region := by
      rintro ⟨_, below⟩
      omega
    have kept := inside (fun _ => ~~~byte) _ outside
    rw [write_apply_of_mem listed] at kept
    simp at kept
  · intro fits memory location outside
    apply write_apply_of_outside
    by_contra inside
    rw [not_or, Nat.not_lt, Nat.not_le] at inside
    exact outside ⟨inside.1, by omega⟩

/-- A copy out of a region, from its start, depends on nothing outside exactly if it fits. -/
theorem read_inside_iff (region : Region) (length : ℕ) :
    (∀ left right, AgreeOn region left right →
      read left region.base length = read right region.base length) ↔ length ≤ region.size := by
  constructor
  · intro inside
    by_contra long
    have agree : AgreeOn region (fun _ => 0)
        (fun location => if location < region.base + region.size then 0 else 1) := by
      rintro location ⟨_, below⟩
      exact (if_pos below).symm
    have same := congrArg (fun bytes : List UInt8 => bytes[region.size]?) (inside _ _ agree)
    simp only [read, List.getElem?_map, List.getElem?_range (Nat.not_le.mp long)] at same
    simp at same
  · intro fits left right agree
    apply List.map_congr_left
    intro index inRange
    have below := List.mem_range.mp inRange
    exact agree _ ⟨Nat.le_add_right _ _, by omega⟩

end ByteMemory
