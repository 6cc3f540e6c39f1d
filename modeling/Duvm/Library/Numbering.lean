import Duvm.Library.HashMap
import Duvm.Library.Log
import Mathlib.Data.Finset.Image

/-!
# Values numbered by a byte

A sequence of values is put into a map under consecutive keys, which are counted
in a byte. Up to 256 values each of them has a key to itself; from then on the
counter wraps around and every new value takes the place of an old one, so that
the last 256 values are in the map.
-/

universe u

namespace Numbering

variable {Value : Type u}

/-- The map has the last values of the sequence, each under its number. -/
structure Numbered (map : HashMap UInt8 Value) (values : List Value) : Prop where
  present : ∀ key, key ∈ map ↔ key.toNat < values.length
  recent : ∀ index value, values[index]? = some value → values.length ≤ index + 2 ^ 8 →
    map.lookup (UInt8.ofNat index) = some value

variable {map : HashMap UInt8 Value} {values : List Value}

theorem numbered_empty : Numbered (∅ : HashMap UInt8 Value) [] where
  present key := by simp
  recent index value listed := by simp at listed

/-- Numbers which are less than a round apart are told apart by the byte. -/
theorem ofNat_ne {index count : ℕ} (before : index < count) (close : count < index + 2 ^ 8) :
    UInt8.ofNat index ≠ UInt8.ofNat count := by
  intro same
  have equal := congrArg UInt8.toNat same
  rw [UInt8.toNat_ofNat', UInt8.toNat_ofNat'] at equal
  omega

theorem Numbered.concat (numbered : Numbered map values) (value : Value) :
    Numbered (map.insert (UInt8.ofNat values.length) value) (values ++ [value]) where
  present key := by
    have small : key.toNat < 256 := key.toNat_lt
    rw [AList.mem_insert, numbered.present, List.length_append, List.length_singleton,
      ← UInt8.toNat_inj, UInt8.toNat_ofNat']
    omega
  recent index other listed close := by
    rw [List.length_append, List.length_singleton] at close
    rw [HashMap.lookup_insert_eq_ite]
    rcases Log.old_or_new listed with old | ⟨rfl, rfl⟩
    · rw [if_neg (ofNat_ne (Log.index_lt old) (by omega))]
      exact numbered.recent index other old (by omega)
    · rw [if_pos rfl]

/-- The value under a key is one of the sequence, and has a number which ends in the key. -/
theorem Numbered.exists_index (numbered : Numbered map values) {key : UInt8} {value : Value}
    (found : map.lookup key = some value) :
    ∃ index, values[index]? = some value ∧ key = UInt8.ofNat index := by
  have small : key.toNat < 2 ^ 8 := key.toNat_lt
  have used := (numbered.present key).mp (HashMap.mem_of_lookup_eq_some found)
  -- The last number which ends in the key.
  obtain ⟨index, same, before, close⟩ : ∃ index, index % 2 ^ 8 = key.toNat ∧
      index < values.length ∧ values.length ≤ index + 2 ^ 8 := by
    refine ⟨key.toNat + 2 ^ 8 * ((values.length - 1 - key.toNat) / 2 ^ 8), ?_, ?_, ?_⟩
    · omega
    · omega
    · omega
  have isKey : key = UInt8.ofNat index := by
    apply UInt8.toNat_inj.mp
    rw [UInt8.toNat_ofNat', same]
  refine ⟨index, ?_, isKey⟩
  have listed := List.getElem?_eq_getElem before
  have recent := numbered.recent index _ listed close
  rw [← isKey, found] at recent
  rw [listed, recent]

/-- There are as many values in the map as keys have been used. -/
theorem Numbered.size_eq (numbered : Numbered map values) :
    HashMap.size map = min values.length (2 ^ 8) := by
  have keys : ∀ key, key ∈ map ↔
      key ∈ (Finset.range (min values.length (2 ^ 8))).image UInt8.ofNat := by
    intro key
    have small : key.toNat < 2 ^ 8 := key.toNat_lt
    rw [numbered.present, Finset.mem_image]
    constructor
    · intro used
      exact ⟨key.toNat, Finset.mem_range.mpr (by omega), UInt8.ofNat_toNat⟩
    · rintro ⟨index, inside, rfl⟩
      have below := Finset.mem_range.mp inside
      rw [UInt8.toNat_ofNat']
      omega
  rw [HashMap.size_eq_card keys, Finset.card_image_of_injOn, Finset.card_range]
  intro first firstInside second secondInside same
  have firstBelow := Finset.mem_range.mp firstInside
  have secondBelow := Finset.mem_range.mp secondInside
  have equal := congrArg UInt8.toNat same
  rw [UInt8.toNat_ofNat', UInt8.toNat_ofNat'] at equal
  omega

end Numbering
