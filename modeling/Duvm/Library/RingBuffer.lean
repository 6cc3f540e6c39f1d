import Duvm.Library.Log
import Mathlib.Data.Nat.Bitwise
import Mathlib.Logic.Function.Basic
import Mathlib.Data.Int.ModEq

/-!
# Circular buffers with masked indices

A producer and a consumer share an array of `capacity` cells, a power of two,
and advance their indices by `(index + 1) & (capacity - 1)`. Seen from outside,
each party counts the elements it has handled; its index is that count modulo
the capacity. `Window` ties the cells to the log of everything ever written:
the log entries from a given count on are in their cells. It survives any
number of wrap-arounds, which makes it the representation invariant of choice
for protocols over such buffers.
-/

namespace RingBuffer

universe u v

/-- Advances an index by one, wrapping at the capacity. -/
def advance (capacity index : ℕ) : ℕ := (index + 1) &&& (capacity - 1)

/-- The masking test for a power of two. -/
theorem exists_two_pow_of_and_pred {number : ℕ} (positive : number ≠ 0)
    (masked : number &&& (number - 1) = 0) : ∃ order, number = 2 ^ order := by
  refine ⟨number.log2, ?_⟩
  by_contra different
  have lower : 2 ^ number.log2 ≤ number := Nat.log2_self_le positive
  have upper : number < 2 ^ (number.log2 + 1) := Nat.lt_log2_self
  have topBit : number.testBit number.log2 = true := Nat.testBit_log2 positive
  have predecessorBit : (number - 1).testBit number.log2 = true :=
    Nat.testBit_of_two_pow_le_and_two_pow_add_one_gt (by omega) (by omega)
  have bit := congrArg (fun value => value.testBit number.log2) masked
  simp [Nat.testBit_and, topBit, predecessorBit] at bit

theorem advance_mod {order : ℕ} (count : ℕ) :
    advance (2 ^ order) (count % 2 ^ order) = (count + 1) % 2 ^ order := by
  rw [advance, Nat.and_two_pow_sub_one_eq_mod, Nat.mod_add_mod]

/-- Two counts less than one lap apart share a cell only when they are equal. -/
theorem eq_of_mod_eq {capacity left right : ℕ} (ordered : left ≤ right)
    (close : right < left + capacity) (same : left % capacity = right % capacity) :
    left = right := by
  have divides : capacity ∣ right - left := (Nat.modEq_iff_dvd' ordered).mp same
  have small : right - left < capacity := by omega
  have zero : right - left = 0 := Nat.eq_zero_of_dvd_of_lt divides small
  omega

/-- The indices of reader and writer meet when the buffer is empty or a whole lap behind. -/
theorem mod_eq_mod_iff {capacity reader writer : ℕ} (ordered : reader ≤ writer)
    (bounded : writer ≤ reader + capacity) :
    writer % capacity = reader % capacity ↔ writer = reader ∨ writer = reader + capacity := by
  constructor
  · intro same
    by_cases close : writer < reader + capacity
    · exact Or.inl (eq_of_mod_eq ordered close same.symm).symm
    · exact Or.inr (by omega)
  · rintro (rfl | rfl)
    · rfl
    · simp

/-- The writer's next index meets the reader when one cell is left. -/
theorem succ_mod_eq_mod_iff {capacity reader writer : ℕ} (ordered : reader ≤ writer)
    (bounded : writer < reader + capacity) :
    (writer + 1) % capacity = reader % capacity ↔ writer + 1 = reader + capacity := by
  constructor
  · intro same
    rcases (mod_eq_mod_iff (Nat.le_succ_of_le ordered) bounded).mp same with equal | lapped
    · omega
    · exact lapped
  · intro lapped
    simp [lapped]

/-- The distance from reader to writer as the masked indices show it. -/
theorem distance_mod {capacity reader writer : ℕ} (ordered : reader ≤ writer) :
    (((writer % capacity : ℕ) : ℤ) - ((reader % capacity : ℕ) : ℤ)) % capacity =
      ((writer - reader : ℕ) : ℤ) % capacity := by
  push_cast [ordered]
  rw [← Int.sub_emod]

/-- The number of cells from the index of the reader to that of the writer. -/
def span (capacity reader writer : ℕ) : ℕ := (writer + capacity - reader) % capacity

theorem span_mod {capacity reader writer : ℕ} (ordered : reader ≤ writer)
    (close : writer < reader + capacity) :
    span capacity (reader % capacity) (writer % capacity) = writer - reader := by
  have below : reader % capacity < capacity := Nat.mod_lt _ (by omega)
  have first : writer % capacity + capacity - reader % capacity + reader % capacity ≡
      writer [MOD capacity] := by
    rw [Nat.sub_add_cancel (by omega)]
    simp [Nat.ModEq]
  have second : writer - reader + reader % capacity ≡ writer [MOD capacity] := by
    have split : writer - reader + reader = writer := Nat.sub_add_cancel ordered
    conv_rhs => rw [← split]
    exact Nat.ModEq.add_left _ (Nat.mod_modEq _ _)
  have same := Nat.ModEq.add_right_cancel' _ (first.trans second.symm)
  rw [span, same, Nat.mod_eq_of_lt (by omega)]

/-- The log entries from `start` on are in their cells. -/
def Window {Item : Type u} (cells : ℕ → Item) (capacity start : ℕ) (log : List Item) : Prop :=
  ∀ count item, start ≤ count → log[count]? = some item → cells (count % capacity) = item

variable {Item : Type u} {cells : ℕ → Item} {capacity start : ℕ} {log : List Item}

theorem window_nil : Window cells capacity start [] := by
  intro count item _ listed
  simp at listed

theorem Window.mono {later : ℕ} (window : Window cells capacity start log)
    (ordered : start ≤ later) : Window cells capacity later log := by
  intro count item beyond listed
  exact window count item (ordered.trans beyond) listed

/-- A change of cells which keeps the live ones keeps the window. -/
theorem Window.congr {others : ℕ → Item} (window : Window cells capacity start log)
    (agree : ∀ count, start ≤ count → count < log.length →
      others (count % capacity) = cells (count % capacity)) :
    Window others capacity start log := by
  intro count item beyond listed
  have inside : count < log.length := (List.getElem?_eq_some_iff.mp listed).1
  rw [agree count beyond inside]
  exact window count item beyond listed

/-- Writing the next cell touches no live entry, unless it laps one. -/
theorem Window.write (window : Window cells capacity start log)
    (room : log.length < start + capacity) (item : Item) :
    Window (Function.update cells (log.length % capacity) item) capacity start log := by
  refine window.congr ?_
  intro count beyond inside
  apply Function.update_of_ne
  intro same
  have := eq_of_mod_eq (Nat.le_of_lt inside) (by omega) same
  omega

/-- The log grows by what is in the next cell. -/
theorem Window.concat (window : Window cells capacity start log) {item : Item}
    (cell : cells (log.length % capacity) = item) :
    Window cells capacity start (log ++ [item]) := by
  intro count found beyond listed
  rcases Log.old_or_new listed with old | ⟨rfl, rfl⟩
  · exact window count found beyond old
  · exact cell

/-- Writing the next cell extends the log, as long as it laps no live entry. -/
theorem Window.push (window : Window cells capacity start log)
    (room : log.length < start + capacity) (item : Item) :
    Window (Function.update cells (log.length % capacity) item) capacity start
      (log ++ [item]) :=
  (window.write room item).concat (Function.update_self _ _ _)

/-- The live cells hold what the log has from the reader on. -/
theorem Window.exists_count_iff (window : Window cells capacity start log) (Good : Item → Prop) :
    (∃ count, start ≤ count ∧ count < log.length ∧ Good (cells (count % capacity))) ↔
      ∃ item ∈ log.drop start, Good item := by
  constructor
  · rintro ⟨count, beyond, inside, good⟩
    rw [window count _ beyond (List.getElem?_eq_getElem inside)] at good
    refine ⟨_, List.mem_drop_iff_getElem.mpr ⟨count - start, by omega, ?_⟩, good⟩
    congr 1
    omega
  · rintro ⟨item, isLater, good⟩
    rcases List.mem_drop_iff_getElem.mp isLater with ⟨distance, inside, isItem⟩
    have listed : log[start + distance]? = some item :=
      List.getElem?_eq_some_iff.mpr ⟨by omega, isItem⟩
    refine ⟨start + distance, Nat.le_add_right _ _, by omega, ?_⟩
    rwa [window _ _ (Nat.le_add_right _ _) listed]

/-- The indices and the cells agree with the log, of which the reader has taken the first
entries. -/
structure Agrees (cells : ℕ → Item) (capacity readIdx writeIdx start : ℕ) (log : List Item) :
    Prop where
  powerOfTwo : ∃ order, capacity = 2 ^ order
  ordered : start ≤ log.length
  readIdx_eq : readIdx = start % capacity
  writeIdx_eq : writeIdx = log.length % capacity
  window : Window cells capacity start log

namespace Agrees

variable {readIdx writeIdx : ℕ}

theorem advance_count (agrees : Agrees cells capacity readIdx writeIdx start log) (count : ℕ) :
    advance capacity (count % capacity) = (count + 1) % capacity := by
  rcases agrees.powerOfTwo with ⟨order, rfl⟩
  exact advance_mod count

/-- The reader finds the oldest entry it has not taken. -/
theorem getElem?_of_ne (agrees : Agrees cells capacity readIdx writeIdx start log)
    (pending : readIdx ≠ writeIdx) : log[start]? = some (cells readIdx) := by
  have ordered := agrees.ordered
  have waiting : start < log.length := by
    by_contra none
    have same : start = log.length := by omega
    apply pending
    rw [agrees.readIdx_eq, agrees.writeIdx_eq, same]
  have listed : log[start]? = some log[start] := List.getElem?_eq_getElem waiting
  rw [listed, agrees.readIdx_eq, agrees.window start _ (le_refl _) listed]

theorem take (agrees : Agrees cells capacity readIdx writeIdx start log)
    (waiting : start < log.length) :
    Agrees cells capacity (advance capacity readIdx) writeIdx (start + 1) log where
  powerOfTwo := agrees.powerOfTwo
  ordered := waiting
  readIdx_eq := by rw [agrees.readIdx_eq, agrees.advance_count]
  writeIdx_eq := agrees.writeIdx_eq
  window := agrees.window.mono (Nat.le_succ _)

theorem write (agrees : Agrees cells capacity readIdx writeIdx start log)
    (room : log.length < start + capacity) (item : Item) :
    Agrees (Function.update cells writeIdx item) capacity readIdx writeIdx start log where
  powerOfTwo := agrees.powerOfTwo
  ordered := agrees.ordered
  readIdx_eq := agrees.readIdx_eq
  writeIdx_eq := agrees.writeIdx_eq
  window := by
    rw [agrees.writeIdx_eq]
    exact agrees.window.write room item

/-- The writer publishes what is in the next cell. -/
theorem publish (agrees : Agrees cells capacity readIdx writeIdx start log) {item : Item}
    (cell : cells writeIdx = item) :
    Agrees cells capacity readIdx (advance capacity writeIdx) start (log ++ [item]) where
  powerOfTwo := agrees.powerOfTwo
  ordered := by
    rw [List.length_append]
    exact agrees.ordered.trans (Nat.le_add_right _ _)
  readIdx_eq := agrees.readIdx_eq
  writeIdx_eq := by
    rw [agrees.writeIdx_eq, agrees.advance_count, List.length_append, List.length_singleton]
  window := agrees.window.concat (agrees.writeIdx_eq ▸ cell)

theorem push (agrees : Agrees cells capacity readIdx writeIdx start log)
    (room : log.length < start + capacity) (item : Item) :
    Agrees (Function.update cells writeIdx item) capacity readIdx (advance capacity writeIdx)
      start (log ++ [item]) :=
  (agrees.write room item).publish (Function.update_self _ _ _)

/-- The test by which a writer stops short of the reader, in terms of counts. -/
theorem advance_ne_iff (agrees : Agrees cells capacity readIdx writeIdx start log)
    (close : log.length < start + capacity) :
    advance capacity writeIdx ≠ readIdx ↔ log.length + 1 < start + capacity := by
  rw [agrees.writeIdx_eq, agrees.advance_count, agrees.readIdx_eq, ne_eq,
    succ_mod_eq_mod_iff agrees.ordered close]
  omega

/-- What is seen between the indices is what the log has from the reader on. -/
theorem exists_cell_iff (agrees : Agrees cells capacity readIdx writeIdx start log)
    (close : log.length < start + capacity) (Good : Item → Prop) :
    (∃ distance, distance < span capacity readIdx writeIdx ∧
      Good (cells ((readIdx + distance) % capacity))) ↔ ∃ item ∈ log.drop start, Good item := by
  have ordered := agrees.ordered
  rw [← agrees.window.exists_count_iff Good, agrees.readIdx_eq, agrees.writeIdx_eq,
    span_mod ordered close]
  constructor
  · rintro ⟨distance, inside, good⟩
    rw [Nat.mod_add_mod] at good
    exact ⟨start + distance, Nat.le_add_right _ _, by omega, good⟩
  · rintro ⟨count, beyond, inside, good⟩
    refine ⟨count - start, by omega, ?_⟩
    rwa [Nat.mod_add_mod, Nat.add_sub_cancel' beyond]

end Agrees

/-- What the reader sees: the cells from its index to that of the writer. A writer which laps
the reader shows less than it has written. -/
def visible (cells : ℕ → Item) (capacity readIdx writeIdx : ℕ) : List Item :=
  (List.range (span capacity readIdx writeIdx)).map fun distance =>
    cells ((readIdx + distance) % capacity)

theorem visible_mod {reader count : ℕ} (close : count < capacity) :
    visible cells capacity (reader % capacity) ((reader + count) % capacity) =
      (List.range count).map fun distance => cells ((reader + distance) % capacity) := by
  rw [visible, span_mod (Nat.le_add_right _ _) (by omega), Nat.add_sub_cancel_left]
  simp only [Nat.mod_add_mod]

theorem visible_add {reader count : ℕ} (below : reader < capacity) (close : count < capacity) :
    visible cells capacity reader ((reader + count) % capacity) =
      (List.range count).map fun distance => cells ((reader + distance) % capacity) := by
  have shown := @visible_mod _ cells capacity reader count close
  rwa [Nat.mod_eq_of_lt below] at shown

/-- Two indices are a number of cells apart. -/
theorem exists_count {reader writer : ℕ} (readerBelow : reader < capacity)
    (writerBelow : writer < capacity) :
    ∃ count < capacity, writer = (reader + count) % capacity := by
  by_cases ordered : reader ≤ writer
  · refine ⟨writer - reader, by omega, ?_⟩
    rw [Nat.add_sub_cancel' ordered, Nat.mod_eq_of_lt writerBelow]
  · refine ⟨writer + capacity - reader, by omega, ?_⟩
    rw [Nat.add_sub_cancel' (by omega), Nat.add_mod_right, Nat.mod_eq_of_lt writerBelow]

section Visible

variable {order readIdx writeIdx : ℕ} (isPower : capacity = 2 ^ order)
  (readBelow : readIdx < capacity) (writeBelow : writeIdx < capacity)
include isPower readBelow

theorem advance_lt : advance capacity readIdx < capacity := by
  have next : advance capacity (readIdx % capacity) = (readIdx + 1) % capacity := by
    rw [isPower]
    exact advance_mod readIdx
  rw [Nat.mod_eq_of_lt readBelow] at next
  rw [next]
  exact Nat.mod_lt _ (by omega)

include writeBelow

/-- The writer shows one more item, or, when it has come round to the reader, none. -/
theorem visible_write (item : Item) :
    visible (Function.update cells writeIdx item) capacity readIdx (advance capacity writeIdx) =
      [] ∨
    visible (Function.update cells writeIdx item) capacity readIdx (advance capacity writeIdx) =
      visible cells capacity readIdx writeIdx ++ [item] := by
  rcases exists_count readBelow writeBelow with ⟨count, close, isWriter⟩
  have next : advance capacity writeIdx = (readIdx + (count + 1)) % capacity := by
    rw [isWriter, isPower]
    exact advance_mod (readIdx + count)
  by_cases last : count + 1 = capacity
  · left
    rw [next, last, Nat.add_mod_right, visible, span, Nat.mod_eq_of_lt readBelow,
      Nat.add_sub_cancel_left, Nat.mod_self]
    rfl
  · right
    rw [next, visible_add readBelow (by omega), List.range_succ, List.map_append, isWriter,
      visible_add readBelow close]
    congr 1
    · apply List.map_congr_left
      intro distance inside
      have below := List.mem_range.mp inside
      apply Function.update_of_ne
      intro same
      have := eq_of_mod_eq (by omega) (by omega) same
      omega
    · rw [List.map_singleton, Function.update_self]

/-- The reader takes the first of the items which it sees. -/
theorem visible_take (pending : readIdx ≠ writeIdx) :
    visible cells capacity readIdx writeIdx =
      cells readIdx :: visible cells capacity (advance capacity readIdx) writeIdx := by
  rcases exists_count readBelow writeBelow with ⟨count, close, isWriter⟩
  have isReader : readIdx % capacity = readIdx := Nat.mod_eq_of_lt readBelow
  cases count with
  | zero =>
      rw [Nat.add_zero, isReader] at isWriter
      exact absurd isWriter.symm pending
  | succ rest =>
      have next : advance capacity readIdx = (readIdx + 1) % capacity := by
        conv_lhs => rw [← isReader, isPower]
        rw [isPower]
        exact advance_mod readIdx
      have others := @visible_mod _ cells capacity (readIdx + 1) rest (by omega)
      rw [Nat.add_assoc, Nat.add_comm 1 rest, ← isWriter, ← next] at others
      rw [others, isWriter, visible_add readBelow close, List.range_succ_eq_map, List.map_cons,
        List.map_map, Nat.add_zero, isReader]
      congr 1
      apply List.map_congr_left
      intro distance _
      rw [Function.comp_apply, Nat.succ_eq_add_one, Nat.add_assoc, Nat.add_comm 1 distance]

end Visible

end RingBuffer
