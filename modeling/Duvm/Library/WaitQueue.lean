import Mathlib.Data.Nat.Notation
import Mathlib.Tactic.Common

/-!
# Sleeping on a wait queue

The protocol by which a thread waits for something to become true: it enters the
queue, looks once more, and sleeps if there is nothing yet. Whoever makes it true
wakes the queue afterwards. A wake-up which comes between the look and the sleep
is remembered, so that the sleep ends at once. A thread which was woken looks
again, and leaves the queue only if there is something for it.

No wake-up is lost: a thread which sleeps and was not woken, although there is
something for it, is about to be woken.
-/

namespace WaitQueue

/-- A thread on the queue: about to look, or asleep. In both cases it may have been woken. -/
inductive Sleeper where
  | queued (woken : Bool)
  | asleep (woken : Bool)
deriving DecidableEq, Repr

namespace Sleeper

/-- A thread which has just entered the queue. -/
def enter : Sleeper := .queued false

/-- Marks the thread. -/
def wake : Sleeper → Sleeper
  | .queued _ => .queued true
  | .asleep _ => .asleep true

/-- What the thread does next. It leaves the queue when it has found something; asleep and not
woken, it does nothing. -/
def resume (ready : Bool) : Sleeper → Option (Option Sleeper)
  | .queued woken => if ready then some none else some (some (.asleep woken))
  | .asleep true => some (some enter)
  | .asleep false => none

/-- Should the thread miss what there is, somebody is about to wake it. -/
def Covered (sleeper : Sleeper) (ready signalling : Prop) : Prop :=
  sleeper = .asleep false → ready → signalling

variable {sleeper next : Sleeper} {isReady : Bool} {ready signalling : Prop}

theorem covered_enter : enter.Covered ready signalling := by
  intro isAsleep
  simp [enter] at isAsleep

theorem covered_wake : sleeper.wake.Covered ready signalling := by
  intro isAsleep
  cases sleeper with
  | queued woken => simp [wake] at isAsleep
  | asleep woken => simp [wake] at isAsleep

/-- The thread looks before it sleeps. -/
theorem covered_resume (looks : ready → isReady = true)
    (resumed : sleeper.resume isReady = some (some next)) : next.Covered ready signalling := by
  rintro rfl isReady
  cases sleeper with
  | queued woken => simp [resume, looks isReady] at resumed
  | asleep woken =>
      cases woken with
      | true => simp [resume, enter] at resumed
      | false => simp [resume] at resumed

theorem ready_of_leaving (resumed : sleeper.resume isReady = some none) : isReady = true := by
  cases sleeper with
  | queued woken => simpa [resume] using resumed
  | asleep woken =>
      cases woken with
      | true => simp [resume] at resumed
      | false => simp [resume] at resumed

theorem resume_eq_none_iff : sleeper.resume isReady = none ↔ sleeper = .asleep false := by
  cases sleeper with
  | queued woken => by_cases ready : isReady = true <;> simp [resume, ready]
  | asleep woken => cases woken <;> simp [resume]

/-- How often the thread can go on by itself before it sleeps or leaves. -/
def rank (ready : Bool) : Sleeper → ℕ
  | .queued woken => if ready then 1 else if woken then 3 else 1
  | .asleep woken => if woken then 2 else 0

theorem rank_le (ready : Bool) (sleeper : Sleeper) : sleeper.rank ready ≤ 3 := by
  cases sleeper with
  | queued woken => cases ready <;> cases woken <;> simp [rank]
  | asleep woken => cases woken <;> simp [rank]

theorem rank_wake (ready : Bool) (sleeper : Sleeper) :
    sleeper.wake.rank ready ≤ sleeper.rank ready + 2 := by
  cases sleeper with
  | queued woken => cases ready <;> cases woken <;> simp [rank, wake]
  | asleep woken => cases woken <;> simp [rank, wake]

theorem rank_resume (resumed : sleeper.resume isReady = some (some next)) :
    next.rank isReady < sleeper.rank isReady := by
  cases sleeper with
  | queued woken =>
      cases isReady with
      | true => simp [resume] at resumed
      | false =>
          simp only [resume, Bool.false_eq_true, if_false, Option.some.injEq] at resumed
          rw [← resumed]
          cases woken <;> simp [rank]
  | asleep woken =>
      cases woken with
      | true =>
          simp only [resume, Option.some.injEq] at resumed
          rw [← resumed]
          cases isReady <;> simp [rank, enter]
      | false => simp [resume] at resumed

theorem rank_pos_of_leaving (resumed : sleeper.resume isReady = some none) :
    0 < sleeper.rank isReady := by
  cases sleeper with
  | queued woken => cases isReady <;> cases woken <;> simp [rank]
  | asleep woken =>
      cases woken with
      | true => simp [rank]
      | false => simp [resume] at resumed

end Sleeper

end WaitQueue
