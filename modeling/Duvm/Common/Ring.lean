import Duvm.Common.Page
import Duvm.Library.BoundedQueue
import Duvm.Library.RingBuffer

/-!
# The rings in user space

`RequestRing` and `CompletionRing` of `duvm-common/src/ring.rs`, with their entries
from `protocol.rs`. The two differ in their entries, and only requests can be taken
in batches.

A call fails where the code would panic: an index outside of the entries, or an
addition or a subtraction which leaves the range of `usize`.
-/

namespace Duvm

/-- A request in the ring buffer (kernel -> daemon). -/
structure RingRequest where
  op : UInt8
  flags : UInt8
  pad : Vector UInt8 2
  seq : UInt32
  pfn : UInt64
  offset : UInt64
  stagingSlot : UInt32
  reserved : Vector UInt8 28
deriving DecidableEq

/-- A completion in the ring buffer (daemon -> kernel); `result` is the word of an `i32`. -/
structure RingCompletion where
  seq : UInt32
  result : Int32
  handle : UInt64
  stagingSlot : UInt32
  reserved : Vector UInt8 40
deriving DecidableEq

def RingRequest.zeroed : RingRequest := ⟨0, 0, .replicate 2 0, 0, 0, 0, 0, .replicate 28 0⟩

def RingCompletion.zeroed : RingCompletion := ⟨0, 0, 0, 0, .replicate 40 0⟩

/-- Addition in the range of `usize`. -/
def usizeAdd (left right : ℕ) : Option ℕ :=
  if left + right < 2 ^ 64 then some (left + right) else none

/-- Subtraction in the range of `usize`. -/
def usizeSub (left right : ℕ) : Option ℕ := if right ≤ left then some (left - right) else none

/-- What the two rings share. -/
structure Ring (Entry : Type) where
  entries : List Entry
  writeIdx : ℕ
  readIdx : ℕ
  capacity : ℕ
  mask : ℕ

namespace Ring

variable {Entry : Type}

/-- A ring of zeroed entries, if the capacity is a power of two. -/
def new (zeroed : Entry) (capacity : ℕ) : Option (Ring Entry) :=
  if capacity ≠ 0 ∧ capacity &&& (capacity - 1) = 0 then
    some ⟨.replicate capacity zeroed, 0, 0, capacity, capacity - 1⟩
  else none

def tryPush (ring : Ring Entry) (entry : Entry) : Option (Bool × Ring Entry) := do
  let nextWrite := (← usizeAdd ring.writeIdx 1) &&& ring.mask
  if nextWrite = ring.readIdx then return (false, ring)
  guard (ring.writeIdx < ring.entries.length)
  let ring := { ring with entries := ring.entries.set ring.writeIdx entry }
  return (true, { ring with writeIdx := (← usizeAdd ring.writeIdx 1) &&& ring.mask })

def tryPop (ring : Ring Entry) : Option (Option Entry × Ring Entry) := do
  if ring.readIdx = ring.writeIdx then return (none, ring)
  let entry ← ring.entries[ring.readIdx]?
  return (some entry, { ring with readIdx := (← usizeAdd ring.readIdx 1) &&& ring.mask })

def len (ring : Ring Entry) : Option ℕ :=
  if ring.writeIdx ≥ ring.readIdx then usizeSub ring.writeIdx ring.readIdx
  else do usizeAdd (← usizeSub ring.capacity ring.readIdx) ring.writeIdx

def isEmpty (ring : Ring Entry) : Bool := ring.writeIdx == ring.readIdx

/-- The loop of `pop_batch`, which goes round at most `remaining` times more. -/
def popLoop : ℕ → Ring Entry → List Entry → ℕ → Option ((List Entry × ℕ) × Ring Entry)
  | 0, ring, buf, count => some ((buf, count), ring)
  | remaining + 1, ring, buf, count =>
      ring.tryPop.bind fun (popped, ring) =>
        match popped with
        | some entry => popLoop remaining ring (buf ++ [entry]) (count + 1)
        | none => some ((buf, count), ring)

end Ring

/-- User-space view of the request ring (kernel writes, daemon reads). -/
abbrev RequestRing := Ring RingRequest

/-- User-space view of the completion ring (daemon writes, kernel reads). -/
abbrev CompletionRing := Ring RingCompletion

namespace RequestRing

def new : ℕ → Option RequestRing := Ring.new .zeroed

def tryPush : RequestRing → RingRequest → Option (Bool × RequestRing) := Ring.tryPush

def tryPop : RequestRing → Option (Option RingRequest × RequestRing) := Ring.tryPop

def popBatch (ring : RequestRing) (buf : List RingRequest) (max : ℕ) :
    Option ((List RingRequest × ℕ) × RequestRing) :=
  Ring.popLoop max ring buf 0

def len : RequestRing → Option ℕ := Ring.len

def isEmpty : RequestRing → Bool := Ring.isEmpty

end RequestRing

namespace CompletionRing

def new : ℕ → Option CompletionRing := Ring.new .zeroed

def tryPush : CompletionRing → RingCompletion → Option (Bool × CompletionRing) := Ring.tryPush

def tryPop : CompletionRing → Option (Option RingCompletion × CompletionRing) := Ring.tryPop

def len : CompletionRing → Option ℕ := Ring.len

def isEmpty : CompletionRing → Bool := Ring.isEmpty

end CompletionRing

namespace Ring

variable {Entry : Type}

/-- The ring holds the queue: the indices and the cells agree with the log of everything pushed, of
which the reader has taken what is not in the queue any more. -/
structure Represents (ring : Ring Entry) (queue : List Entry) (log : List Entry) (start : ℕ) :
    Prop where
  agrees : RingBuffer.Agrees (fun index => ring.entries[index]?) ring.capacity ring.readIdx
    ring.writeIdx start (log.map some)
  queue : queue = log.drop start
  close : log.length < start + ring.capacity
  length : ring.entries.length = ring.capacity
  mask : ring.mask = ring.capacity - 1
  word : ring.capacity < 2 ^ 64

namespace Represents

variable {ring : Ring Entry} {queue log : List Entry} {start : ℕ}

theorem ordered (represents : ring.Represents queue log start) : start ≤ log.length := by
  simpa using represents.agrees.ordered

theorem readIdx_lt (represents : ring.Represents queue log start) :
    ring.readIdx < ring.capacity := by
  have ordered := represents.ordered
  have close := represents.close
  rw [represents.agrees.readIdx_eq]
  exact Nat.mod_lt _ (by omega)

theorem writeIdx_lt (represents : ring.Represents queue log start) :
    ring.writeIdx < ring.capacity := by
  have ordered := represents.ordered
  have close := represents.close
  rw [represents.agrees.writeIdx_eq]
  exact Nat.mod_lt _ (by omega)

theorem length_queue (represents : ring.Represents queue log start) :
    queue.length = log.length - start := by
  rw [represents.queue, List.length_drop]

/-- An index below the capacity is advanced without overflow. -/
theorem add_one (represents : ring.Represents queue log start) {index : ℕ}
    (inside : index < ring.capacity) : usizeAdd index 1 = some (index + 1) := by
  have word := represents.word
  rw [usizeAdd, if_pos (by omega)]

theorem masked (represents : ring.Represents queue log start) (index : ℕ) :
    (index + 1) &&& ring.mask = RingBuffer.advance ring.capacity index := by
  rw [represents.mask, RingBuffer.advance]

/-- The ring is full when one cell is left. -/
theorem full_iff (represents : ring.Represents queue log start) :
    RingBuffer.advance ring.capacity ring.writeIdx = ring.readIdx ↔
      queue.length = ring.capacity - 1 := by
  have close := represents.close
  have ordered := represents.ordered
  have room := represents.agrees.advance_ne_iff (by simpa using close)
  rw [List.length_map] at room
  rw [represents.length_queue, ← not_iff_not, ← ne_eq, room]
  omega

/-- It is empty when the indices meet. -/
theorem empty_iff (represents : ring.Represents queue log start) :
    ring.readIdx = ring.writeIdx ↔ queue = [] := by
  have close := represents.close
  have ordered := represents.ordered
  rw [represents.agrees.readIdx_eq, represents.agrees.writeIdx_eq, List.length_map,
    ← List.length_eq_zero_iff, represents.length_queue]
  constructor
  · intro same
    have := RingBuffer.eq_of_mod_eq ordered close same
    omega
  · intro none
    have same : start = log.length := by omega
    rw [same]

theorem push (represents : ring.Represents queue log start)
    (room : queue.length ≠ ring.capacity - 1) (entry : Entry) :
    Represents { ring with
      entries := ring.entries.set ring.writeIdx entry
      writeIdx := RingBuffer.advance ring.capacity ring.writeIdx }
      (queue ++ [entry]) (log ++ [entry]) start := by
  have close := represents.close
  have ordered := represents.ordered
  have counted := represents.length_queue
  have inside : ring.writeIdx < ring.entries.length := by
    rw [represents.length]
    exact represents.writeIdx_lt
  have cells : (fun index => (ring.entries.set ring.writeIdx entry)[index]?) =
      Function.update (fun index => ring.entries[index]?) ring.writeIdx (some entry) := by
    funext index
    rw [List.getElem?_set, Function.update_apply]
    by_cases same : index = ring.writeIdx
    · rw [if_pos same.symm, if_pos inside, if_pos same]
    · rw [if_neg (Ne.symm same), if_neg same]
  refine ⟨?_, ?_, ?_, ?_, represents.mask, represents.word⟩
  · rw [cells, List.map_append, List.map_singleton]
    exact represents.agrees.push (by simpa using close) (some entry)
  · rw [represents.queue, List.drop_append_of_le_length ordered]
  · simp only [List.length_append, List.length_singleton]
    omega
  · rw [List.length_set]
    exact represents.length

theorem pop {entry : Entry} (represents : ring.Represents (entry :: queue) log start) :
    ring.entries[ring.readIdx]? = some entry ∧
      Represents { ring with readIdx := RingBuffer.advance ring.capacity ring.readIdx }
        queue log (start + 1) := by
  have waiting : start < log.length := by
    have counted := represents.length_queue
    rw [List.length_cons] at counted
    omega
  have split := represents.queue
  rw [List.drop_eq_getElem_cons waiting, List.cons.injEq] at split
  have pending : ring.readIdx ≠ ring.writeIdx := by
    rw [ne_eq, represents.empty_iff]
    simp
  have oldest := represents.agrees.getElem?_of_ne pending
  rw [List.getElem?_map, List.getElem?_eq_getElem waiting, Option.map_some, Option.some.injEq,
    ← split.1] at oldest
  have close := represents.close
  refine ⟨oldest.symm, ?_, split.2, ?_, represents.length, represents.mask, represents.word⟩
  · exact represents.agrees.take (by simpa using waiting)
  · simp only
    omega

theorem tryPush_eq (represents : ring.Represents queue log start) (entry : Entry) :
    ∃ next log start, ring.tryPush entry =
        some ((BoundedQueue.tryPush (ring.capacity - 1) queue entry).1, next) ∧
      next.Represents (BoundedQueue.tryPush (ring.capacity - 1) queue entry).2 log start ∧
      next.capacity = ring.capacity := by
  have inside := represents.writeIdx_lt
  have bumped := represents.add_one inside
  rw [← represents.length] at inside
  by_cases full : queue.length = ring.capacity - 1
  · refine ⟨ring, log, start, ?_, ?_, rfl⟩
    · simp [Ring.tryPush, bumped, represents.masked, represents.full_iff, full,
        BoundedQueue.tryPush]
    · rw [BoundedQueue.tryPush, if_pos full]
      exact represents
  · have pushed := represents.push full entry
    rw [BoundedQueue.tryPush, if_neg full]
    refine ⟨_, _, _, ?_, pushed, rfl⟩
    simp [Ring.tryPush, bumped, represents.masked, represents.full_iff, full, inside]

theorem tryPop_eq (represents : ring.Represents queue log start) :
    ∃ next log start, ring.tryPop = some ((BoundedQueue.tryPop queue).1, next) ∧
      next.Represents (BoundedQueue.tryPop queue).2 log start ∧
      next.capacity = ring.capacity := by
  cases queue with
  | nil =>
      refine ⟨ring, log, start, ?_, represents, rfl⟩
      simp [Ring.tryPop, represents.empty_iff, BoundedQueue.tryPop]
  | cons entry rest =>
      rcases represents.pop with ⟨found, popped⟩
      refine ⟨_, _, _, ?_, popped, rfl⟩
      simp [Ring.tryPop, represents.empty_iff, found, represents.add_one represents.readIdx_lt,
        represents.masked, BoundedQueue.tryPop]

/-- Both formulas for the length are in range and right. -/
theorem len_eq (represents : ring.Represents queue log start) : ring.len = some queue.length := by
  have ordered := represents.ordered
  have close := represents.close
  have word := represents.word
  have reader := represents.readIdx_lt
  have writer := represents.writeIdx_lt
  have span := RingBuffer.span_mod ordered close
  rw [← represents.agrees.readIdx_eq, ← List.length_map (f := some),
    ← represents.agrees.writeIdx_eq, List.length_map, ← represents.length_queue,
    RingBuffer.span] at span
  unfold Ring.len
  split
  · next ahead =>
      have lap : ring.writeIdx + ring.capacity - ring.readIdx =
          ring.writeIdx - ring.readIdx + ring.capacity := by omega
      rw [lap, Nat.add_mod_right, Nat.mod_eq_of_lt (by omega)] at span
      rw [usizeSub, if_pos ahead, span]
  · next behind =>
      have below : ring.writeIdx + ring.capacity - ring.readIdx < ring.capacity := by omega
      rw [Nat.mod_eq_of_lt below] at span
      have total : ring.capacity - ring.readIdx + ring.writeIdx = queue.length := by omega
      simp [usizeSub, usizeAdd, reader.le, total]
      omega

theorem popLoop_eq (remaining : ℕ) (represents : ring.Represents queue log start)
    (buf : List Entry) (count : ℕ) :
    ∃ next log start, popLoop remaining ring buf count =
        some ((buf ++ queue.take remaining, count + min remaining queue.length), next) ∧
      next.Represents (queue.drop remaining) log start ∧ next.capacity = ring.capacity := by
  induction remaining generalizing ring queue log start buf count with
  | zero => exact ⟨ring, log, start, by simp [popLoop], represents, rfl⟩
  | succ remaining ih =>
      rcases represents.tryPop_eq with ⟨next, laterLog, laterStart, popped, later, sameCapacity⟩
      simp only [popLoop, popped, Option.bind_some]
      cases queue with
      | nil =>
          exact ⟨next, laterLog, laterStart, by simp [BoundedQueue.tryPop], later, sameCapacity⟩
      | cons entry rest =>
          rcases ih later (buf ++ [entry]) (count + 1) with
            ⟨final, finalLog, finalStart, looped, emptied, stillCapacity⟩
          refine ⟨final, finalLog, finalStart, ?_, emptied, stillCapacity.trans sameCapacity⟩
          simp only [BoundedQueue.tryPop] at looped ⊢
          rw [looped]
          simp
          omega

end Represents

/-- Some log of the entries pushed shows the queue in the ring. -/
def Holds (limit : ℕ) (ring : Ring Entry) (queue : List Entry) : Prop :=
  ring.capacity - 1 = limit ∧ ∃ log start, ring.Represents queue log start

theorem new_eq {order : ℕ} (word : order < 64) (zeroed : Entry) :
    ∃ ring, new zeroed (2 ^ order) = some ring ∧ ring.Holds (2 ^ order - 1) [] := by
  have positive : 0 < 2 ^ order := Nat.two_pow_pos order
  have masked : 2 ^ order &&& (2 ^ order - 1) = 0 := by
    rw [Nat.and_two_pow_sub_one_eq_mod, Nat.mod_self]
  refine ⟨_, if_pos ⟨positive.ne', masked⟩, rfl, [], 0, ?_, rfl, ?_, ?_, rfl, ?_⟩
  · exact ⟨⟨order, rfl⟩, le_refl 0, (Nat.zero_mod _).symm, (Nat.zero_mod _).symm,
      RingBuffer.window_nil⟩
  · simp
  · exact List.length_replicate
  · exact Nat.pow_lt_pow_right (by decide) word

open BoundedQueue (Answer)

variable {limit : ℕ} {ring : Ring Entry} {queue : List Entry}

theorem Holds.push (holds : ring.Holds limit queue) (entry : Entry) :
    ∃ next, (ring.tryPush entry).map (Prod.map Answer.pushed id) =
        some ((BoundedQueue.serve limit queue (.tryPush entry)).1, next) ∧
      next.Holds limit (BoundedQueue.serve limit queue (.tryPush entry)).2 := by
  rcases holds with ⟨rfl, log, start, represents⟩
  rcases represents.tryPush_eq entry with ⟨next, later, reader, pushed, held, same⟩
  refine ⟨next, ?_, by rw [same], later, reader, held⟩
  rw [pushed]
  rfl

theorem Holds.pop (holds : ring.Holds limit queue) :
    ∃ next, ring.tryPop.map (Prod.map Answer.popped id) =
        some ((BoundedQueue.serve limit queue .tryPop).1, next) ∧
      next.Holds limit (BoundedQueue.serve limit queue .tryPop).2 := by
  rcases holds with ⟨rfl, log, start, represents⟩
  rcases represents.tryPop_eq with ⟨next, later, reader, popped, held, same⟩
  refine ⟨next, ?_, by rw [same], later, reader, held⟩
  rw [popped]
  rfl

theorem Holds.len (holds : ring.Holds limit queue) : ring.len = some queue.length := by
  rcases holds with ⟨_, log, start, represents⟩
  exact represents.len_eq

theorem Holds.isEmpty (holds : ring.Holds limit queue) : ring.isEmpty = queue.isEmpty := by
  rcases holds with ⟨_, log, start, represents⟩
  rw [Bool.eq_iff_iff, List.isEmpty_iff, ← represents.empty_iff, Ring.isEmpty, beq_iff_eq, eq_comm]

end Ring

open BoundedQueue (Call Answer)

/-- A call on the request ring. -/
def RequestRing.serve (ring : RequestRing) :
    Call RingRequest → Option (Answer RingRequest × RequestRing)
  | .tryPush req => (RequestRing.tryPush ring req).map (Prod.map .pushed id)
  | .tryPop => (RequestRing.tryPop ring).map (Prod.map .popped id)
  | .popBatch buf max =>
      (RequestRing.popBatch ring buf max).map
        (Prod.map (fun (buf, count) => .batch buf count) id)
  | .len => (RequestRing.len ring).map fun count => (.length count, ring)
  | .isEmpty => some (.emptiness (RequestRing.isEmpty ring), ring)

/-- A call on the completion ring, which has no `pop_batch`. -/
def CompletionRing.serve (ring : CompletionRing) :
    Call RingCompletion → Option (Answer RingCompletion × CompletionRing)
  | .tryPush comp => (CompletionRing.tryPush ring comp).map (Prod.map .pushed id)
  | .tryPop => (CompletionRing.tryPop ring).map (Prod.map .popped id)
  | .popBatch _ _ => none
  | .len => (CompletionRing.len ring).map fun count => (.length count, ring)
  | .isEmpty => some (.emptiness (CompletionRing.isEmpty ring), ring)

/-- Not a call of `pop_batch`. -/
def Single {Entry : Type} : Call Entry → Prop
  | .popBatch _ _ => False
  | _ => True

theorem RequestRing.simulates (limit : ℕ) :
    BoundedQueue.Simulates limit RequestRing.serve (fun _ => True) (Ring.Holds limit) := by
  intro ring queue call holds _
  cases call with
  | tryPush req => exact holds.push req
  | tryPop => exact holds.pop
  | popBatch buf max =>
      rcases holds with ⟨rfl, log, start, represents⟩
      rcases represents.popLoop_eq max buf 0 with ⟨next, later, reader, looped, held, same⟩
      refine ⟨next, ?_, by rw [same], later, reader, held⟩
      simp only [serve, RequestRing.popBatch, looped, Option.map_some, Nat.zero_add]
      rfl
  | len =>
      refine ⟨ring, ?_, holds⟩
      simp only [serve, RequestRing.len, holds.len, Option.map_some]
      rfl
  | isEmpty =>
      refine ⟨ring, ?_, holds⟩
      simp only [serve, RequestRing.isEmpty, holds.isEmpty]
      rfl

theorem CompletionRing.simulates (limit : ℕ) :
    BoundedQueue.Simulates limit CompletionRing.serve Single (Ring.Holds limit) := by
  intro ring queue call holds single
  cases call with
  | tryPush comp => exact holds.push comp
  | tryPop => exact holds.pop
  | popBatch buf max => exact absurd single id
  | len =>
      refine ⟨ring, ?_, holds⟩
      simp only [serve, CompletionRing.len, holds.len, Option.map_some]
      rfl
  | isEmpty =>
      refine ⟨ring, ?_, holds⟩
      simp only [serve, CompletionRing.isEmpty, holds.isEmpty]
      rfl

/-- Whatever is called on a new ring, it answers as a queue which is one shorter than its
capacity, and no call panics. -/
theorem rings_answer_as_queue {order : ℕ} (word : order < 64) :
    (∀ calls, ∃ ring final, RequestRing.new (2 ^ order) = some ring ∧
      BoundedQueue.answers RequestRing.serve ring calls =
        some ((BoundedQueue.serveAll (2 ^ order - 1) [] calls).1, final)) ∧
    (∀ calls, (∀ call ∈ calls, Single call) →
      ∃ ring final, CompletionRing.new (2 ^ order) = some ring ∧
        BoundedQueue.answers CompletionRing.serve ring calls =
          some ((BoundedQueue.serveAll (2 ^ order - 1) [] calls).1, final)) := by
  constructor
  · intro calls
    rcases Ring.new_eq word RingRequest.zeroed with ⟨ring, created, empty⟩
    rcases (RequestRing.simulates _).answers_eq empty fun _ _ => trivial with
      ⟨final, answered, _⟩
    exact ⟨ring, final, created, answered⟩
  · intro calls single
    rcases Ring.new_eq word RingCompletion.zeroed with ⟨ring, created, empty⟩
    rcases (CompletionRing.simulates _).answers_eq empty single with ⟨final, answered, _⟩
    exact ⟨ring, final, created, answered⟩

/-- Two cells hold one entry, also once the indices have come round. -/
theorem rings_of_two_cells :
    (∃ ring final, RequestRing.new 2 = some ring ∧
      BoundedQueue.answers RequestRing.serve ring
          [.tryPush .zeroed, .tryPush .zeroed, .tryPop,
            .tryPush { RingRequest.zeroed with seq := 7 }, .len, .popBatch [] 5, .isEmpty] =
        some ([.pushed true, .pushed false, .popped (some .zeroed), .pushed true, .length 1,
          .batch [{ RingRequest.zeroed with seq := 7 }] 1, .emptiness true], final)) ∧
    (∃ ring final, CompletionRing.new 2 = some ring ∧
      BoundedQueue.answers CompletionRing.serve ring
          [.tryPush .zeroed, .tryPush .zeroed, .tryPop, .len] =
        some ([.pushed true, .pushed false, .popped (some .zeroed), .length 0], final)) := by
  have answered := @rings_answer_as_queue 1 (by decide)
  exact ⟨answered.1 _, answered.2 _ (by simp [Single])⟩

end Duvm
