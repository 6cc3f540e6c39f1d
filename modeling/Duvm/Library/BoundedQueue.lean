import Mathlib.Data.List.Basic

/-!
# Bounded queues

A first-in first-out queue of limited length, as a list, with the calls which can
be made on it and their answers. An implementation answers the same calls, but
it may also fail. It refines the queue when some relation between its states and
lists is kept by every call, with the answers of the queue: then no sequence of
calls tells the two apart.
-/

universe u v w

namespace BoundedQueue

variable {Item : Type u}

/-- Nothing is changed when the queue is full. -/
def tryPush (limit : ℕ) (queue : List Item) (item : Item) : Bool × List Item :=
  if queue.length = limit then (false, queue) else (true, queue ++ [item])

def tryPop : List Item → Option Item × List Item
  | [] => (none, [])
  | item :: rest => (some item, rest)

/-- Up to `max` items are appended to the buffer, and counted. -/
def popBatch (queue buf : List Item) (max : ℕ) : (List Item × ℕ) × List Item :=
  ((buf ++ queue.take max, min max queue.length), queue.drop max)

inductive Call (Item : Type u) where
  | tryPush (item : Item)
  | tryPop
  | popBatch (buf : List Item) (max : ℕ)
  | len
  | isEmpty

inductive Answer (Item : Type u) where
  | pushed (accepted : Bool)
  | popped (item : Option Item)
  | batch (buf : List Item) (count : ℕ)
  | length (count : ℕ)
  | emptiness (empty : Bool)
deriving DecidableEq

/-- The answer to a call, and the queue after it. -/
def serve (limit : ℕ) (queue : List Item) : Call Item → Answer Item × List Item
  | .tryPush item => Prod.map .pushed id (tryPush limit queue item)
  | .tryPop => Prod.map .popped id (tryPop queue)
  | .popBatch buf max => Prod.map (fun (buf, count) => .batch buf count) id (popBatch queue buf max)
  | .len => (.length queue.length, queue)
  | .isEmpty => (.emptiness queue.isEmpty, queue)

/-- The answers to a sequence of calls, and the queue after them. -/
def serveAll (limit : ℕ) : List Item → List (Call Item) → List (Answer Item) × List Item
  | queue, [] => ([], queue)
  | queue, call :: rest =>
      let (answer, queue) := serve limit queue call
      let (answers, queue) := serveAll limit queue rest
      (answer :: answers, queue)

variable {Impl : Type v}

/-- The answers of an implementation, unless it fails. -/
def answers (step : Impl → Call Item → Option (Answer Item × Impl)) :
    Impl → List (Call Item) → Option (List (Answer Item) × Impl)
  | impl, [] => some ([], impl)
  | impl, call :: rest =>
      (step impl call).bind fun (answer, impl) =>
        (answers step impl rest).map fun (later, impl) => (answer :: later, impl)

/-- Each call allowed is answered as by the queue which is represented. -/
def Simulates (limit : ℕ) (step : Impl → Call Item → Option (Answer Item × Impl))
    (Allowed : Call Item → Prop) (Represents : Impl → List Item → Prop) : Prop :=
  ∀ impl queue call, Represents impl queue → Allowed call →
    ∃ next, step impl call = some ((serve limit queue call).1, next) ∧
      Represents next (serve limit queue call).2

/-- An implementation which simulates the queue does not fail, and answers every sequence of
calls as the queue does. -/
theorem Simulates.answers_eq {limit : ℕ} {step : Impl → Call Item → Option (Answer Item × Impl)}
    {Allowed : Call Item → Prop} {Represents : Impl → List Item → Prop}
    (simulates : Simulates limit step Allowed Represents) {impl : Impl} {queue : List Item}
    (represents : Represents impl queue) {calls : List (Call Item)}
    (allowed : ∀ call ∈ calls, Allowed call) :
    ∃ final, answers step impl calls = some ((serveAll limit queue calls).1, final) ∧
      Represents final (serveAll limit queue calls).2 := by
  induction calls generalizing impl queue with
  | nil => exact ⟨impl, rfl, represents⟩
  | cons call rest ih =>
      rcases simulates impl queue call represents (allowed call List.mem_cons_self) with
        ⟨next, stepped, represented⟩
      rcases ih represented fun later listed => allowed later (List.mem_cons_of_mem _ listed) with
        ⟨final, answered, represented⟩
      refine ⟨final, ?_, represented⟩
      simp only [answers, stepped, answered, Option.bind_some, Option.map_some, serveAll]

end BoundedQueue
